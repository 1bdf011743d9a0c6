/-!
Time zones.

A record is made of words. The first is the zone's name behind an `@`, the second the offsets of the zone in
seconds, the first of them in force before the first change. The third is the rule for the years after the last
recorded change, or `-`. All further words together are the changes: a capital letter for the offset that comes
into force, by its place in the list of offsets, and the time since the change before in minutes, to the base
of 36, after a point seconds. The first time counts from the start of 1800. A rule has two parts of the same kind:
the letter of the offset, then month, week of the month (the fifth is the last) and day of the week (Sunday is
0), then the minute of that day at which the change takes place, in the offset that is left. The aliases are
pairs of a name and the name it stands for. All of it is the data of the time zone database.
-/

namespace Stencil.Calendar.Tables

/-- Zones of Africa. -/
def africa : String :=
  "@Africa/Abidjan -968,0 - Bz2j4g.8
    @Africa/Algiers 732,561,0,3600,7200 -
    Bsk47n.1cC69a02.1fD1ncml.lC3d40D5dc0C62w0D4q00C6ig0D4i80C6q80D42o0C7s00D4ds0C3200D5pfk0C23lo
    D30zcE1a9icD5sucE5floD55goCbww0D2wyxoC298ecD2ik00C4r40D1r7loE9xs0D5m9oCcb8oD5m9oC5u1oD5m6c
    @Africa/Bissau -3740,-3600,0 - Bz2j5oCjq7s0
    @Africa/Cairo 7509,7200,10800 C4.5.5/0,B10.5.4/1440
    Bvjpgi.1fCcgio5.9B2emcC61toB4r2cC62xoB6g6cC4tdoB6lqcC4oxoB6lqcC54hoB652cC3lvloB4fycC6jloB4pyc
    C6jncB4oxoC6lqcB4oxoC6kmcB4oxoC6kmcB4oxoC6kmcB4oxoC6lqcB4oxoC6kmcB4oxoC6kmcB4q1oC6jicB4q1oC6kmc
    B4q1oC6jicB4q1oC6jicB4q1oC6jicB4q1oC6kmcB4q1oC6jicB4q1oC6jicB4q1oC6jicB4q1oC6kmcB4q1oC6jicB4q1o
    C6jicB4q1oC6jicB4q1oC6kmcB4q1oC6jicB4q1oC95ycB23loC8ricB2i1oC6kmcB4q1oC6jicB4q1oC6jicB4q1oC6jic
    B4q1oC6kmcB4q1oC6p2cB4khoC6jicB4q1oC6jicB4q1oC6kmcB4q1oC6jicB4q1oC6jicB4q1oC6g4oB4r2cC6hdoB4r2c
    C6hdoB4r2cC6hdoB4r2cC6p5oB4r2cC6hdoB4r2cC6hdoB4r2cC6hdoB4r2cC6hdoB4r2cC6p5oB4r2cC6hdoB4r2cC6hdo
    B4jacC6p5oB43qcC74poB3vycC7choB3o6cC7s1oB36ecCxdoBnacC14u1oB1amcC12xoB1q6cC2osho
    @Africa/Casablanca -1820,0,3600 -
    Bzn0wu.kC83q75.14B23icC30xoB1slicC1ff5oB4bicC5731oB3oqcC23v5oB24mcCirloB2u6cC8fdoB4mmcC7ldoB1z2c
    C1raxoBk8ucC70opoB2u6cC8fdoB2hycC7u9oB30ucC7choB3o6cC8fh0B2j40Cyg0B19k0C6hc0B25s0C11s0B2eo0C4r40
    B2s00C12w0B2mg0C4r40B2dk0C12w0B30w0C4r40B25s0C12w0B3gg0C4jc0B1q80C1ao0B3o80C4jc0B1ig0C12w0B9xs0
    C12w0B9q00C1ao0B9q00C12w0B9q00C1ao0B9q00C12w0B9xs0C12w0B9q00C1ao0B9q00C12w0B9xs0C12w0B9q00C1ao0
    B9q00C12w0B9q00C1ao0B9q00C12w0B9xs0C12w0B9q00C1ao0B9q00C12w0B9q00C1ao0B9q00C1ao0B9q00C12w0B9q00
    C1ao0B9q00C12w0B9xs0C12w0B9q00C1ao0B9q00C12w0B9q00C1ao0B9q00C1ao0B9q00C12w0B9q00C1ao0B9q00C12w0
    B9xs0C12w0B9q00C1ao0B9q00C12w0B9q00C1ao0B9q00C1ao0B9q00C12w0B9q00C1ao0B9q00C12w0B9xs0C12w0B9q00
    C1ao0B9q00C12w0B9q00C1ao0B9q00C1ao0B9q00C12w0B9q00C1ao0B9q00C12w0B9xs0C12w0B9q00C1ao0B9q00C12w0
    B9q00C1ao0B9q00C1ao0B9q00C12w0B9q00C1ao0B9q00C12w0B9xs0C12w0B9q00C1ao0B9q00C12w0B9q00C1ao0B9q00
    C1ao0B9q00C12w0B9q00C1ao0B9q00C12w0B9xs0C12w0B9q00C1ao0B9q00C12w0B9q00C1ao0B9q00C12w0B9xs0C12w0
    B9q00C1ao0B9q00C12w0B9xs0C12w0B9q00C1ao0
    @Africa/Ceuta -1276,0,3600,7200 D3.5.0/120,C10.5.0/180
    Bvmjs0C5fiucB4r2cC1qa9oB5a1oCha6cB56poC5tycB5ehoC61s0B5eg0Cc3r80B3oqcC23v5oB24mcCirloB2u6cC8fdo
    B4mmcC7ldoB1z2cC1raxoDmypoC5m80D5m80C5m80D5m80C5m80D5m80C5m80D5m80C5u00D5m80C5m80D5m80C5m80D5m80
    C5m80D5m80C5m80D5m80C5m80D5u00
    @Africa/El_Aaiun -3168,-3600,0,3600 -
    B15yk1g.1cCd8o07.cDiucC2u6cD8fdoC4mmcD7ldoC1z2cD9c8hoC2u6cD8fdoC2hycD7u9oC30ucD7choC3o6cD8fh0
    C2j40Dyg0C19k0D6hc0C25s0D11s0C2eo0D4r40C2s00D12w0C2mg0D4r40C2dk0D12w0C30w0D4r40C25s0D12w0C3gg0
    D4jc0C1q80D1ao0C3o80D4jc0C1ig0D12w0C9xs0D12w0C9q00D1ao0C9q00D12w0C9q00D1ao0C9q00D12w0C9xs0D12w0
    C9q00D1ao0C9q00D12w0C9xs0D12w0C9q00D1ao0C9q00D12w0C9q00D1ao0C9q00D12w0C9xs0D12w0C9q00D1ao0C9q00
    D12w0C9q00D1ao0C9q00D1ao0C9q00D12w0C9q00D1ao0C9q00D12w0C9xs0D12w0C9q00D1ao0C9q00D12w0C9q00D1ao0
    C9q00D1ao0C9q00D12w0C9q00D1ao0C9q00D12w0C9xs0D12w0C9q00D1ao0C9q00D12w0C9q00D1ao0C9q00D1ao0C9q00
    D12w0C9q00D1ao0C9q00D12w0C9xs0D12w0C9q00D1ao0C9q00D12w0C9q00D1ao0C9q00D1ao0C9q00D12w0C9q00D1ao0
    C9q00D12w0C9xs0D12w0C9q00D1ao0C9q00D12w0C9q00D1ao0C9q00D1ao0C9q00D12w0C9q00D1ao0C9q00D12w0C9xs0
    D12w0C9q00D1ao0C9q00D12w0C9q00D1ao0C9q00D1ao0C9q00D12w0C9q00D1ao0C9q00D12w0C9xs0D12w0C9q00D1ao0
    C9q00D12w0C9q00D1ao0C9q00D12w0C9xs0D12w0C9q00D1ao0C9q00D12w0C9xs0D12w0C9q00D1ao0
    @Africa/Johannesburg 6720,5400,7200,10800 - Bsu9owC3gmomDcdxeiC5m6cD5m9oC5m6c
    @Africa/Juba 7588,7200,10800 -
    B150q4h.wCcbd46.sB55icC62xoB56mcC641oB56mcC61toB57qcC60poB58ucC5zloB59ycC5yhoB5c6cC5w9oB5dac
    C62xoB56mcC61toB57qcC60poB59ycC5yhoB5b2cC5xdoB5c6cC5w9oB5dacC62xoB57qcC60poB58ucC4gnxoB6l9mc
    @Africa/Khartoum 7808,7200,10800 -
    B150q4d.1gCcbd4a.8B55icC62xoB56mcC641oB56mcC61toB57qcC60poB58ucC5zloB59ycC5yhoB5c6cC5w9oB5dac
    C62xoB56mcC61toB57qcC60poB59ycC5yhoB5b2cC5xdoB5c6cC5w9oB5dacC62xoB57qcC60poB58ucC4gnxoB5klmc
    @Africa/Lagos 815,0,1800,3600 - Bx187m.pAxtsd.zC1q1bm.pD1ruvj.z
    @Africa/Maputo 7818,7200 - By4qcd.16
    @Africa/Monrovia -2588,-2670,0 - B11b9t7.8Cgju01.m
    @Africa/Nairobi 8836,9000,10800,9900 - Bxx63w.18C6bcfx.gBh2f6D26souC1qwfl
    @Africa/Ndjamena 3612,3600,7200 - Bz2j2b.1cCl84w0.cB4i6c
    @Africa/Sao_Tome 1616,-2205,0,3600 - Bqawv9.4C8rm8q.1kDx6yxoCb9k0
    @Africa/Tripoli 3164,3600,7200 -
    B11kpqj.gC9yaz4.18B2fn0Cjz10B2l70CjntoB2vacCxttoB77aecC2s1oB5nacC5m9oB5nacC5ndoB5nacC5rtoB5hqc
    C5ploB5m6cC5k1oB5nacC5ndoB5nacC5m9oB5nacC6mxoB2092cC5qpoB4vw9oC4ag0
    @Africa/Tunis 2444,561,3600,7200 -
    Bph5qv.gC9c8gv.nD8sr8x.lC6p40D3200Ci5c0D4r5oC7cjcD4jc0Cl2cD8xoC4zycD5m9oC5sr0D5fp0C55f0D9wg9o
    C4jc0D6rc0C4q00D30zc0C3kw0D5m80C5m80D6rc0C4ow0D4kew0C4oxoD5gpoC6p40D4jc0C6p40D4r40C6hc0
    @Africa/Windhoek 4104,5400,7200,10800,3600 -
    Bsu9q3.10C3gmne.oDcdxeiC5m6cEfyxqcC55p0E6hacC4r5oE6p2cC4jdoE6p2cC4r5oE6hacC4r5oE6hacC4r5oE6hac
    C4r5oE6hacC4r5oE6p2cC4jdoE6p2cC4r5oE6hacC4r5oE6hacC4r5oE6hacC4r5oE6hacC4r5oE6p2cC4r5oE6hacC4r5o
    E6hacC4r5oE6hacC4r5oE6hacC4r5oE6p2cC4jdoE6p2cC4r5oE6hacC4r5oE6hacC4r5oE6hacC4r5o"

/-- Zones of America. -/
def america : String :=
  "@America/Adak 44002,-42398,-39600,-36000,-32400 E3.2.0/120,D11.1.0/120
    Bl89cv.dCaa6mr.pDczim1.mC150mcD7dqpoC5m6cD5m9oC5m6cD5m9oC5tycD5m9oC5m6cD5m9oC5m6cD25toC92mcD3o9o
    C7k6cD5m9oC5tycD5ehoC5tycD5m9oC5m6cD5m9oC5m6cD5m9oC5m6cD5m9oC5m6cD5m9oC5tycD5ehoEbg6cD5m6cE5m9o
    D5m6cE5m9oD5m6cE4yxoD69icE4yxoD6hacE4r5oD6hacE4r5oD6hacE4yxoD69icE4yxoD69icE4yxoD6hacE4r5oD6hac
    E4r5oD6hacE4yxoD69icE4yxoD69icE4yxoD69icE4yxoD6hacE4r5oD6hacE4r5oD6hacE4yxoD69icE4yxoD69icE4yxo
    D6hacE4r5oD6hacE4r5oD6hacE43to
    @America/Anchorage 50424,-35976,-36000,-32400,-28800 E3.2.0/120,D11.1.0/120
    Bl89cv.dCaa6js.nDczinc.oC150mcD7dqpoC5m6cD5m9oC5m6cD5m9oC5tycD5m9oC5m6cD5m9oC5m6cD25toC92mcD3o9o
    C7k6cD5m9oC5tycD5ehoC5tycD5m9oC5m6cD5m9oC5m6cD5m9oC5m6cD5m9oC5m6cD5m9oC5tycD5ehoEbg6cD5m6cE5m9o
    D5m6cE5m9oD5m6cE4yxoD69icE4yxoD6hacE4r5oD6hacE4r5oD6hacE4yxoD69icE4yxoD69icE4yxoD6hacE4r5oD6hac
    E4r5oD6hacE4yxoD69icE4yxoD69icE4yxoD69icE4yxoD6hacE4r5oD6hacE4r5oD6hacE4yxoD69icE4yxoD69icE4yxo
    D6hacE4r5oD6hacE4r5oD6hacE43to
    @America/Araguaina -11568,-10800,-7200 -
    Bzp3hc.1cC5k4xz.cB5kk0C5ploB5jycC57whoB4740C72g0B3qecC7j5oB3ricC7j5oB2rycC3dg9oB2k6cCaddoB1tic
    C7k9oB2rycC7k9oB3pacC7k9oB3qecC5j89oB43qcC6wxoB3gecC7t5oB38mcC7s1oB38mcC7ztoB3o6cC1ry9oB3o6c
    C7choB43qcC75toB4i6cC6wxoB43qcC6wxoB4jacC6wxoB43qcC7choB3vycC7ztoB38mcC313toB3o6c
    @America/Argentina/Buenos_Aires -14028,-15408,-14400,-10800,-7200 -
    Btp0mh.1cC7zfsnD3bbjj.cC3qecD62xoC49acD7k9oC3pacD7k9oC3pacD7k9oC3pacD7k9oC3qecD7k9oC3pacD7k9o
    C3pacD7k9oC3pacD7k9oC3qecD3rloCarqcD3rloCk7qcD2bdoCqsecD6ltoC5bmucD2bdoC2dicD71doC486cD71doC486c
    D71doC57qcD5m9oC5tycD5m9oC5m6cD5m9oE1chicD30ucE4kg1oD2wecE6wxoD4bicE74poD43qcE74poD43qcE74po
    D4bicE4n09oD2dicE6p5oD4jac
    @America/Argentina/Catamarca -15788,-15408,-14400,-10800,-7200 -
    Btp0nb.8C7zfrt.14D3bbjj.cC3qecD62xoC49acD7k9oC3pacD7k9oC3pacD7k9oC3pacD7k9oC3qecD7k9oC3pacD7k9o
    C3pacD7k9oC3pacD7k9oC3qecD3rloCarqcD3rloCk7qcD2bdoCqsecD6ltoC5bmucD2bdoC2dicD71doC486cD71doC486c
    D71doC57qcD5m9oC5tycD5m9oC5m6cD5m9oE1chicD30ucE4kg1oD2wecE6wxoD4bicE74poC43qcE74rcD43ooE74po
    D4bicC3io1oDl5oE13r2cD2dic
    @America/Argentina/Cordoba -15408,-14400,-10800,-7200 -
    B11ogf4.1cC3bbjj.cB3qecC62xoB49acC7k9oB3pacC7k9oB3pacC7k9oB3pacC7k9oB3qecC7k9oB3pacC7k9oB3pac
    C7k9oB3pacC7k9oB3qecC3rloBarqcC3rloBk7qcC2bdoBqsecC6ltoB5bmucC2bdoB2dicC71doB486cC71doB486cC71do
    B57qcC5m9oB5tycC5m9oB5m6cC5m9oD1chicC30ucD4kg1oC2wecD6wxoC4bicD74poB43qcD74rcC43ooD74poC4bic
    D4n09oC2dicD6p5oC4jac
    @America/Argentina/Jujuy -15672,-15408,-14400,-10800,-7200 -
    Btp0n9.cC7zfrv.10D3bbjj.cC3qecD62xoC49acD7k9oC3pacD7k9oC3pacD7k9oC3pacD7k9oC3qecD7k9oC3pacD7k9o
    C3pacD7k9oC3pacD7k9oC3qecD3rloCarqcD3rloCk7qcD2bdoCqsecD6ltoC5bmucD2bdoC2dicD71doC486cD71doC486c
    D71doC57qcD5m9oC5tycD5m9oC5m6cD5m9oE1chicD30ucE4kg1oD2wecE6wxoC4bicD7cjcC4bicE69loD4j8oE74po
    D4bicE4n09oD2dic
    @America/Argentina/La_Rioja -16044,-15408,-14400,-10800,-7200 -
    Btp0nf.oC7zfrp.oD3bbjj.cC3qecD62xoC49acD7k9oC3pacD7k9oC3pacD7k9oC3pacD7k9oC3qecD7k9oC3pacD7k9o
    C3pacD7k9oC3pacD7k9oC3qecD3rloCarqcD3rloCk7qcD2bdoCqsecD6ltoC5bmucD2bdoC2dicD71doC486cD71doC486c
    D71doC57qcD5m9oC5tycD5m9oC5m6cD5m9oE1chicD30ucE4kg1oD2wecE6wxoD4bicE74poC41icD22jcE54ecD43qc
    E74poD4bicC3io1oDl5oE13r2cD2dic
    @America/Argentina/Mendoza -16516,-15408,-14400,-10800,-7200 -
    Btp0nn.gC7zfrh.wD3bbjj.cC3qecD62xoC49acD7k9oC3pacD7k9oC3pacD7k9oC3pacD7k9oC3qecD7k9oC3pacD7k9o
    C3pacD7k9oC3pacD7k9oC3qecD3rloCarqcD3rloCk7qcD2bdoCqsecD6ltoC5bmucD2bdoC2dicD71doC486cD71doC486c
    D71doC57qcD5m9oC5tycD5m9oC5m6cD5m9oE1chicD30ucE4kg1oD2wecE6wxoC4bicD6y3cC486cD71doC49acE74po
    D4bgoC3ie1oD3w1oE10q6cD2dic
    @America/Argentina/Rio_Gallegos -16612,-15408,-14400,-10800,-7200 -
    Btp0no.1gC7zfrf.1kD3bbjj.cC3qecD62xoC49acD7k9oC3pacD7k9oC3pacD7k9oC3pacD7k9oC3qecD7k9oC3pacD7k9o
    C3pacD7k9oC3pacD7k9oC3qecD3rloCarqcD3rloCk7qcD2bdoCqsecD6ltoC5bmucD2bdoC2dicD71doC486cD71doC486c
    D71doC57qcD5m9oC5tycD5m9oC5m6cD5m9oE1chicD30ucE4kg1oD2wecE6wxoD4bicE74poD43qcE74poD43qcE74po
    D4bicC3io1oDl5oE13r2cD2dic
    @America/Argentina/Salta -15700,-15408,-14400,-10800,-7200 -
    Btp0n9.14C7zfrv.8D3bbjj.cC3qecD62xoC49acD7k9oC3pacD7k9oC3pacD7k9oC3pacD7k9oC3qecD7k9oC3pacD7k9o
    C3pacD7k9oC3pacD7k9oC3qecD3rloCarqcD3rloCk7qcD2bdoCqsecD6ltoC5bmucD2bdoC2dicD71doC486cD71doC486c
    D71doC57qcD5m9oC5tycD5m9oC5m6cD5m9oE1chicD30ucE4kg1oD2wecE6wxoD4bicE74poC43qcE74rcD43ooE74po
    D4bicE4n09oD2dic
    @America/Argentina/San_Juan -16444,-15408,-14400,-10800,-7200 -
    Btp0nm.4C7zfri.18D3bbjj.cC3qecD62xoC49acD7k9oC3pacD7k9oC3pacD7k9oC3pacD7k9oC3qecD7k9oC3pacD7k9o
    C3pacD7k9oC3pacD7k9oC3qecD3rloCarqcD3rloCk7qcD2bdoCqsecD6ltoC5bmucD2bdoC2dicD71doC486cD71doC486c
    D71doC57qcD5m9oC5tycD5m9oC5m6cD5m9oE1chicD30ucE4kg1oD2wecE6wxoD4bicE74poC41icD22jcE54ecD43qc
    E74poD4bicC3imxoD1p5oE12o6cD2dic
    @America/Argentina/San_Luis -15924,-15408,-14400,-10800,-7200 -
    Btp0nd.oC7zfrr.oD3bbjj.cC3qecD62xoC49acD7k9oC3pacD7k9oC3pacD7k9oC3pacD7k9oC3qecD7k9oC3pacD7k9o
    C3pacD7k9oC3pacD7k9oC3qecD3rloCarqcD3rloCk7qcD2bdoCqsecD6ltoC5bmucD2bdoC2dicD71doC486cD71doC486c
    D71doC57qcD5m9oC5tycD5m9oC5m6cD5m9oE1chicD30ucE4kg1oD2wecE6wxoC4mmcD6mzcC486cD2u9oC42jicD1p5o
    E12o6cDoecC1hdoD6p5oC4jacD6p5o
    @America/Argentina/Tucuman -15652,-15408,-14400,-10800,-7200 -
    Btp0n8.1gC7zfrv.1kD3bbjj.cC3qecD62xoC49acD7k9oC3pacD7k9oC3pacD7k9oC3pacD7k9oC3qecD7k9oC3pacD7k9o
    C3pacD7k9oC3pacD7k9oC3qecD3rloCarqcD3rloCk7qcD2bdoCqsecD6ltoC5bmucD2bdoC2dicD71doC486cD71doC486c
    D71doC57qcD5m9oC5tycD5m9oC5m6cD5m9oE1chicD30ucE4kg1oD2wecE6wxoD4bicE74poC43qcE74rcD43ooE74po
    D4bicC3io1oDddoE13yucD2dicE6p5oD4jac
    @America/Argentina/Ushuaia -16392,-15408,-14400,-10800,-7200 -
    Btp0nl.cC7zfrj.10D3bbjj.cC3qecD62xoC49acD7k9oC3pacD7k9oC3pacD7k9oC3pacD7k9oC3qecD7k9oC3pacD7k9o
    C3pacD7k9oC3pacD7k9oC3qecD3rloCarqcD3rloCk7qcD2bdoCqsecD6ltoC5bmucD2bdoC2dicD71doC486cD71doC486c
    D71doC57qcD5m9oC5tycD5m9oC5m6cD5m9oE1chicD30ucE4kg1oD2wecE6wxoD4bicE74poD43qcE74poD43qcE74po
    D4bicC3iltoDndoE13r2cD2dic
    @America/Asuncion -13840,-14400,-10800 -
    B159fqe.14Ccty09.kBgvqcCgwxoB4oucC6ltoB4nqcC6ltoB4nqcC6ltoB5m6cC5ndoB5nacC5ndoB5m6cC5ndoB5m6c
    C5ndoB5m6cC5ndoB5nacC5ndoB5m6cC5ndoB5m6cC5ndoB5m6cC5ndoB5nacC5ndoB5m6cC6apoB4yucC5ndoB5m6cC5sxo
    B4jacC6q9oB5gmcC5ohoB4licC6o1oB4kecC6p5oB4oucC6rdoB4bicC6wxoB4jacC6p5oB4r2cC6hdoB4r2cC6hdoB4r2c
    C6p5oB5m6cC4jdoB6p2cC4r5oB6hacC61toB4jacC6p5oB4jacC6p5oB4jacC6wxoB4bicC6wxoB4bicC6wxoB5eecC5eho
    B5tycC5ehoB5tycC5m9oB56mcC61toB56mcC61toB56mcC61toB5eecC5u1oB5eecC5u1oB5eecC61toB56mcC61toB56mc
    C61toB5eecC5u1oB5eecC5u1oB5eecC5u1oB5eecC61to
    @America/Bahia -9244,-10800,-7200 -
    Bzp3ga.4C5k4z1.1kB5kk0C5ploB5jycC57whoB4740C72g0B3qecC7j5oB3ricC7j5oB2rycC3dg9oB2k6cCaddoB1tic
    C7k9oB2rycC7k9oB3pacC7k9oB3qecC5j89oB43qcC6wxoB3gecC7t5oB38mcC7s1oB38mcC7ztoB3o6cC7s1oB3o6cC7k9o
    B3gecC7ztoB30ucC7ztoB3vycC7choB3vycC7choB3o6cC7choB43qcC75toB4i6cC6wxoB43qcC6wxoB4jacC6wxoB43qc
    C7choB3vycC7ztoB38mcC2pnloB43qc
    @America/Bahia_Banderas -25260,-25200,-21600,-18000 -
    B127aboC1pao0B12pacC54hoB4r2cC5ndoB35facCgw8t0B69icC4yxoB69icC4yxoB69icC4yxoB6hacC4r5oB6hacC5u1o
    B4jacC5u1oB69icC4yxoB69icC4yxoB6hacC4r5oB6hacC4r5oB6hacC4r5oB6hacC4yxoB69icC4yxoB69icD4yxoC6h8o
    D4r5oC6hacD4r5oC6hacD4yxoC69icD4yxoC69icD4yxoC69icD4yxoC6hacD4r5oC6hacD4r5oC6hacD4yxoC69icD4yxo
    C69icD4yxoC6hacD4r5oC6hac
    @America/Barbados -14309,-14400,-10800,-12600 -
    Byynam.tC9lflp.vB44xoC7j2cB3w1oD6q6cB4q1oCa9880B3gecC61toB56mcC61toB56mcC69loB4vic
    @America/Belem -11636,-10800,-7200 -
    Bzp3hd.1kC5k4xy.4B5kk0C5ploB5jycC57whoB4740C72g0B3qecC7j5oB3ricC7j5oB2rycC3dg9oB2k6cCaddoB1tic
    C7k9oB2rycC7k9oB3pacC7k9oB3qecC5j89oB43qcC6wxoB3gecC7t5oB38mc
    @America/Belize -21168,-21600,-19800,-18000 -
    Bz5chs.1cC21fc7.cB3vz6C7cguB43r6C74ouB43r6C74ouB43r6C7cguB3vz6C7cguB3vz6C7cguB43r6C74ouB43r6
    C74ouB43r6C74ouB43r6C7cguB3vz6C7cguB3vz6C7cguB43r6C74ouB43r6C74ouB43r6C7cguB3vz6C7cguB3vz6C7cgu
    B3vz6C7cguB43r6C74ouB43r6C74ouB43r6C7cguB3vz6C7cguB3vz6C7cguB43r6D43suB133qcCkb5oB43r6C74ouB43r6
    C74ouB43r6C7cguB3vz6C7cguB3vz6C7cguB43r6C74ouB43r6C74ouB43r6C74ouB43r6C7cguB3vz6C7cguB3vz6C7cgu
    B43r6C74ouB43r6C74ouB43r6C7cguB3vz6C7cguB3vz6C7cguB3vz6C7cguB43r6C74ouB43r6C74ouB43r6C7cguB3vz6
    D1tk0uB21acD2rtdoB1q6c
    @America/Boa_Vista -14560,-14400,-10800 -
    Bzp3iq.14C5k4y9.kB5kk0C5ploB5jycC57whoB4740C72g0B3qecC7j5oB3ricC7j5oB2rycC3dg9oB2k6cCaddoB1tic
    C7k9oB2rycC7k9oB3pacC7k9oB3qecC5j89oB43qcC6wxoB3gecC7t5oB38mcC3ncxoB4jacC6wxoB7qc
    @America/Bogota -17776,-18000,-14400 - Bzz5s8.gCo90w3.18B8n2c
    @America/Boise -27889,-28800,-25200,-21600 D3.2.0/120,C11.1.0/120
    Bq9kxcCard3cB6hacC4r5oB6hacC13yxoD5vbqcC150mcD6r9toC5m6cD5m9oC5m6cD5m9oC5m6cD5m9oC5m6cD5m9oC5tyc
    D5m9oC5m6cD5m9oC5m6cD30xoC87icD3o9oC7k6cD5m9oC5tycD5ehoC5tycD5m9oC5m6cD5m9oC5m6cD5m9oC5m6cD5m9o
    C5m6cD5m9oC5tycD5ehoC5tycD5m9oC5m6cD5m9oC5m6cD5m9oC5m6cD4yxoC69icD4yxoC6hacD4r5oC6hacD4r5oC6hac
    D4yxoC69icD4yxoC69icD4yxoC6hacD4r5oC6hacD4r5oC6hacD4yxoC69icD4yxoC69icD4yxoC69icD4yxoC6hacD4r5o
    C6hacD4r5oC6hacD4yxoC69icD4yxoC69icD4yxoC6hacD4r5oC6hacD4r5oC6hacD43to
    @America/Cambridge_Bay 0,-25200,-21600,-18000 C3.2.0/120,B11.1.0/120
    B11kps0C6x8n0B150mcC8bntoB5m6cC5m9oB5m6cC5m9oB5m6cC5m9oB5m6cC5m9oB5tycC5ehoB5tycC5m9oB5m6cC5m9o
    B5m6cC5m9oB5m6cC5m9oB5m6cC5m9oB5tycC5ehoB5tycC5m9oB5m6cC5m9oB5m6cC5m9oB5m6cC4yxoB69icC4yxoB6hac
    C4r5oB6hacC4r5oB6hacC4yxoB69icC4yxoB69icC4yxoB6hacC4r5oB6hacC4r5oB6hacC4yxoB69icC4yxoB69icC4yxo
    B69icC4yxoDb8ecC6oz0Bb0t0C4yxoB69icC4yxoB69icC4yxoB6hacC4r5oB6hacC4r5oB6hacC43to
    @America/Campo_Grande -13108,-14400,-10800 -
    Bzp3i2.sC5k4yx.wB5kk0C5ploB5jycC57whoB4740C72g0B3qecC7j5oB3ricC7j5oB2rycC3dg9oB2k6cCaddoB1tic
    C7k9oB2rycC7k9oB3pacC7k9oB3qecC5j89oB43qcC6wxoB3gecC7t5oB38mcC7s1oB38mcC7ztoB3o6cC7s1oB3o6cC7k9o
    B3gecC7ztoB30ucC7ztoB3vycC7choB3vycC7choB3o6cC7choB43qcC75toB4i6cC6wxoB43qcC6wxoB4jacC6wxoB43qc
    C7choB3vycC7ztoB38mcC7k9oB3o6cC821oB3e6cC7choB3vycC7ztoB3gecC74poB3vycC7k9oB3o6cC7k9oB3vycC7cho
    B3vycC7choB43qcC7choB3o6cC7k9oB3o6cC7k9oB3vycC7choB3vycC7choB3vycC7choB3vycC7ztoB38mc
    @America/Cancun -20824,-21600,-18000,-14400 -
    B127aa0Cis7fcBbjf0C45g50B69icC4yxoDb8ecC3o6cB2ldoC4yxoB6hacC4r5oB6hacC5u1oB4jacC5u1oB69icC4yxo
    B69icC4yxoB6hacC4r5oB6hacC4r5oB6hacC4r5oB6hacC4yxoB69icC4yxoB69icC4yxoB6hacC4r5oB6hacC4r5oB6hac
    C4yxoB69icC4yxoB69icC30xo
    @America/Caracas -16064,-16060,-16200,-14400 - Bs6knf.18C6x9bz.1kDgk7c2.kCdg0k6D2mmo0
    @America/Cayenne -12560,-14400,-10800 - Bywutt.kChm4wu.14
    @America/Chicago -21036,-21600,-18000 C3.2.0/120,B11.1.0/120
    Bq9ku0Card3cB6hacC4r5oB6hacC74poB4bicC4jdoB6p2cC5m9oB4jacC6p5oB4r2cC6hdoB4r2cC6hdoB4r2cC6hdo
    B4r2cC6hdoB4r2cC6p5oB4r2cC6hdoB4r2cC6hdoB4r2cC6hdoB4r2cC6hdoB4r2cC6p5oB4jacC6p5oB4r2cC6hdoB4r2c
    C4r5oB7zqcC4yxoB4r2cC6hdoB4r2cC6p5oB4jacC6p5oB4r2cC6hdoB4r2cC44xoB150mcC6hdoB4r2cC6hdoB4r2cC6hdo
    B4r2cC6hdoB4r2cC6p5oB4jacC6p5oB4r2cC6hdoB4r2cC6hdoB4r2cC6hdoB4r2cC6hdoB5tycC5m9oB5m6cC5m9oB5m6c
    C5m9oB5m6cC5m9oB5m6cC5m9oB5tycC5m9oB5m6cC5m9oB5m6cC5m9oB5m6cC5m9oB5m6cC5m9oB5tycC5ehoB5tycC5m9o
    B5m6cC5m9oB5m6cC5m9oB5m6cC5m9oB5m6cC5m9oB5tycC5m9oB5m6cC5m9oB5m6cC25toB92mcC3o9oB7k6cC5m9oB5tyc
    C5ehoB5tycC5m9oB5m6cC5m9oB5m6cC5m9oB5m6cC5m9oB5m6cC5m9oB5tycC5ehoB5tycC5m9oB5m6cC5m9oB5m6cC5m9o
    B5m6cC4yxoB69icC4yxoB6hacC4r5oB6hacC4r5oB6hacC4yxoB69icC4yxoB69icC4yxoB6hacC4r5oB6hacC4r5oB6hac
    C4yxoB69icC4yxoB69icC4yxoB69icC4yxoB6hacC4r5oB6hacC4r5oB6hacC4yxoB69icC4yxoB69icC4yxoB6hacC4r5o
    B6hacC4r5oB6hacC43to
    @America/Chihuahua -25460,-25200,-21600,-18000 -
    B127aboC1pao0B12pacC54hoB4r2cC5ndoDk1o1oC69icD4yxoC69icBb8hoC4yxoB6hacC4r5oB6hacC5u1oB4jacC5u1o
    B69icC4yxoB69icC4yxoB6hacC4r5oB6hacC4r5oB6hacC4r5oB6hacC4yxoB69icC4yxoB69icC4yxoB6hacC4r5oB6hac
    C4r5oB6hacC4yxoB69icC4yxoB69icC4yxoB69icC4yxoB6hacC4r5oB6hacC4r5oB6hacC4yxoB69icC4yxoB69icC4yxo B6hacC4r5o
    @America/Ciudad_Juarez -25556,-25200,-21600,-18000 C3.2.0/120,B11.1.0/120
    B127aboC1pao0B12pacC54hoB4r2cC5ndoDk1o1oC69icD4yxoC69icBb8hoC4yxoB6hacC4r5oB6hacC5u1oB4jacC5u1o
    B69icC4yxoB69icC4yxoB6hacC4r5oB6hacC4r5oB6hacC4r5oB6hacC4yxoB69icC4yxoB69icC4bloB7cecC3w1oB7cec
    C3w1oB7cecC3w1oB7cecC3w1oB7cecC3w1oB7cecC43toB7cecC3w1oB7cecC3w1oB7cecC3w1oB7cecC3w1oB7cecC43to
    B7cecC3w1oB82z0
    @America/Costa_Rica -20173,-21600,-18000 - B11wg9c.dCi73cn.1bB30ucC87loB30ucC3bvloB512cC67doB1rac
    @America/Coyhaique -17296,-16965,-18000,-14400,-10800 -
    Bs6ko0.gC69pju.tB20yoh.fDopzi.19B92mt.fD2k3l6.19C6kmt.fD4q1oC6jicD4q1oC6jicD4q1oC6jicD4q1oC6kmc
    D4q1oC31vicD1vtoC1glacD1ko0E6puo0D4jacE7choD3vycE61toD4r2cE6hdoD4r2cE6p5oD4jacE69loD4yucE6p5o
    D4jacE6p5oD4r2cE6hdoD4r2cE6hdoD4r2cE6p5oD4jacE6p5oD4jacE6p5oD4r2cE6hdoD4r2cE6hdoD4r2cE6hdoD4r2c
    E6p5oD4jacE6p5oD4jacE6p5oD5m6cE5m9oD4r2cE6hdoD4r2cE6p5oD4jacE5u1oD5eecE6p5oD4r2cE6hdoD4r2cE6hdo
    D4r2cE6hdoD4r2cE6p5oD4jacE6p5oD56mcE61toD4r2cE61toD5tycE5u1oD4r2cE6p5oD4jacE6p5oD4jacE6p5oD4jac
    E6p5oD4r2cE6hdoD4r2cE6hdoD4r2cE6p5oD4jacE6p5oD56mcE61toD4r2cE6hdoD5eecE5u1oD6hacE38poD7rycE3w1o
    D7cecE43toD74mcE43toDj0ecE2t5oD8facE2t5oD8facE2t5oD7cecE4r5oD6hacE4r5oD6hacE4r5oD6hacE4yxoD69ic
    E4r5oD6p2cE4r5o
    @America/Cuiaba -13460,-14400,-10800 -
    Bzp3i8.kC5k4yr.14B5kk0C5ploB5jycC57whoB4740C72g0B3qecC7j5oB3ricC7j5oB2rycC3dg9oB2k6cCaddoB1tic
    C7k9oB2rycC7k9oB3pacC7k9oB3qecC5j89oB43qcC6wxoB3gecC7t5oB38mcC7s1oB38mcC7ztoB3o6cC7s1oB3o6cC7k9o
    B3gecC7ztoB30ucC7ztoB3vycC7choB3vycC7choB3o6cC7choB43qcC75toB4i6cC6wxoB43qcC6wxoB4jacC6wxoB43qc
    C7choB3vycC7ztoB38mcCjahoB3e6cC7choB3vycC7ztoB3gecC74poB3vycC7k9oB3o6cC7k9oB3vycC7choB3vycC7cho
    B43qcC7choB3o6cC7k9oB3o6cC7k9oB3vycC7choB3vycC7choB3vycC7choB3vycC7ztoB38mc
    @America/Danmarkshavn -4480,-10800,-7200,0 -
    B10i2q2.14Cjxzy9.kB5e9cC5m80B5m80C5m80B5m80C5m80B5m80C5m80B5u00C5m80B5m80C5m80B5m80C5m80B5m80
    C5m80B5m80C5m80B5m80C5m80B5u00C5m80B5m80C5m80B5m80C5m80B5m80C5m80B5m80C5m80B5m80D323c
    @America/Dawson -33460,-32400,-28800,-25200 -
    Bvifbh.14C5iyau.kB61qcC6hdoB4xn0C6z450B150mcD64l2cB5u00C2i3c0D218poC5m6cD5m9oC5m6cD5m9oC5tyc
    D5ehoC5tycD5m9oC5m6cD5m9oC5m6cD5m9oC5m6cD4yxoC69icD4yxoC6hacD4r5oC6hacD4r5oC6hacD4yxoC69icD4yxo
    C69icD4yxoC6hacD4r5oC6hacD4r5oC6hacD4yxoC69icD4yxoC69icD4yxoC69icD4yxoC6hacD4r5oC6hacD4r5oC6hac
    D4yxoC69icD4yxoC69icD4yxoC6hacD4r5oC6hacD4r5oC6hacD43toC7cecD3w1oC7cecD3w1oC7cecD43toC7cecD3w1o
    C7cecD3w1oC7cecD3w1oC7cecD3w1oC7cecD3w1oC7cecD43toC7cecD3w1oC7cecD3w1oC7cecD3w1oC7cecD3w1o
    @America/Dawson_Creek -28856,-28800,-25200 -
    Bqax9c.1kCaqgbb.4B61qcC7aj5oB150mcChptoB4r2cC6hdoB4r2cC6hdoB4r2cC6p5oB4jacC6p5oB4r2cC6hdoB4r2c
    C6hdoB4r2cC6hdoB4r2cC6hdoB4r2cC6p5oB4r2cC6hdoB4r2cC6hdoB4r2cC6hdoB4r2cC6hdoB4r2cC6p5oB4jacC6p5o
    B5m6cC5m9oB5m6cC5m9oB5m6cC5m9oB5tycC5ehoB5tycC5m9oB5m6cC5m9oB5m6cC5m9oB5m6cC5m9oB5m6cC5m9oB5tyc C5m9o
    @America/Denver -25196,-25200,-21600 C3.2.0/120,B11.1.0/120
    Bq9kvoCard3cB6hacC4r5oB6hacC4r5oB6p2cC4jdoB1q6cC6hkxoB150mcC64l5oB5tycC5ehoB5tycC5m9oB5m6cC5m9o
    B5m6cC5m9oB5m6cC5m9oB5m6cC5m9oB5tycC5m9oB5m6cC5m9oB5m6cC25toB92mcC3o9oB7k6cC5m9oB5tycC5ehoB5tyc
    C5m9oB5m6cC5m9oB5m6cC5m9oB5m6cC5m9oB5m6cC5m9oB5tycC5ehoB5tycC5m9oB5m6cC5m9oB5m6cC5m9oB5m6cC4yxo
    B69icC4yxoB6hacC4r5oB6hacC4r5oB6hacC4yxoB69icC4yxoB69icC4yxoB6hacC4r5oB6hacC4r5oB6hacC4yxoB69ic
    C4yxoB69icC4yxoB69icC4yxoB6hacC4r5oB6hacC4r5oB6hacC4yxoB69icC4yxoB69icC4yxoB6hacC4r5oB6hacC4r5o B6hacC43to
    @America/Detroit -19931,-21600,-18000,-14400 D3.2.0/120,C11.1.0/120
    Bwvnd8.bC38us3.1dD8dg6cC150mcDsy9oC4r2cD5uyedC489nD5m9oC5m6cD1ertoC5m6cD25toC92mcD5m9oC5m6cD5m9o
    C5tycD5ehoC5tycD5m9oC5m6cD5m9oC5m6cD5m9oC5m6cD5m9oC5m6cD5m9oC5tycD5ehoC5tycD5m9oC5m6cD5m9oC5m6c
    D5m9oC5m6cD4yxoC69icD4yxoC6hacD4r5oC6hacD4r5oC6hacD4yxoC69icD4yxoC69icD4yxoC6hacD4r5oC6hacD4r5o
    C6hacD4yxoC69icD4yxoC69icD4yxoC69icD4yxoC6hacD4r5oC6hacD4r5oC6hacD4yxoC69icD4yxoC69icD4yxoC6hac
    D4r5oC6hacD4r5oC6hacD43to
    @America/Edmonton -27232,-25200,-21600 C3.2.0/120,B11.1.0/120
    Bxef0l.1gC3myie.8B61qcC56poB1cucCab5oB5tycC5ehoB4r2cC6p5oB4jacC6p5oB4r2cC5r09oB150mcChptoB4r2c
    C7p6xoB5m6cC5m9oB5m6cC5m9oB5m6cC5m9oB5m6cC5m9oB5tycC5ehoB5tycC5m9oB5m6cC5m9oB5m6cC5m9oB5m6cC5m9o
    B5m6cC5m9oB5tycC5ehoB5tycC5m9oB5m6cC5m9oB5m6cC5m9oB5m6cC4yxoB69icC4yxoB6hacC4r5oB6hacC4r5oB6hac
    C4yxoB69icC4yxoB69icC4yxoB6hacC4r5oB6hacC4r5oB6hacC4yxoB69icC4yxoB69icC4yxoB69icC4yxoB6hacC4r5o
    B6hacC4r5oB6hacC4yxoB69icC4yxoB69icC4yxoB6hacC4r5oB6hacC4r5oB6hacC43to
    @America/Eirunepe -16768,-18000,-14400 -
    Bzp3jr.sC5k4yw.wB5kk0C5ploB5jycC57whoB4740C72g0B3qecC7j5oB3ricC7j5oB2rycC3dg9oB2k6cCaddoB1tic
    C7k9oB2rycC7k9oB3pacC7k9oB3qecC5j89oB43qcC6wxoB3gecC7t5oB38mcC1s61oB3vycC4ho1oB1onac
    @America/El_Salvador -21408,-21600,-18000 - B11w0pw.1cCkrs03.cB4jacC6p5oB4jac
    @America/Fort_Nelson -29447,-28800,-25200 -
    Bqax9m.1bCaqgb1.dB61qcC7aj5oB150mcChptoB4r2cC6hdoB4r2cC6hdoB4r2cC6p5oB4jacC6p5oB4r2cC6hdoB4r2c
    C6hdoB4r2cC6hdoB4r2cC6hdoB4r2cC6p5oB4r2cC6hdoB4r2cC6hdoB4r2cC6hdoB4r2cC6hdoB4r2cC6p5oB4jacC6p5o
    B5m6cC5m9oB5m6cC5m9oB5m6cC5m9oB5tycC5ehoB5tycC5m9oB5m6cC5m9oB5m6cC5m9oB5m6cC5m9oB5m6cC5m9oB5tyc
    C5m9oB5m6cC5m9oB5m6cC5m9oB5m6cC5m9oB5m6cC5m9oB5tycC5ehoB5tycC5m9oB5m6cC5m9oB5m6cC5m9oB5m6cC5m9o
    B5m6cC5m9oB5tycC5ehoB5tycC5m9oB5m6cC5m9oB5m6cC5m9oB5m6cC4yxoB69icC4yxoB6hacC4r5oB6hacC4r5oB6hac
    C4yxoB69icC4yxoB69icC4yxoB6hacC4r5oB6hacC4r5oB6hacC4yxoB69icC4yxoB69icC4yxoB69icC4yxoB6hacC4r5o
    B6hacC4r5oB6hacC4yxoB69icC4yxoB69icC4yxoB6hacC4r5oB6hacC4r5oB6hacC43toB7cecC3w1oB7cecC3w1oB7cec
    C43toB7cecC3w1oB7cecC3w1oB7cecC3w1oB7cecC3w1oB7cecC3w1o
    @America/Fortaleza -9240,-10800,-7200 -
    Bzp3gaC5k4z2B5kk0C5ploB5jycC57whoB4740C72g0B3qecC7j5oB3ricC7j5oB2rycC3dg9oB2k6cCaddoB1ticC7k9o
    B2rycC7k9oB3pacC7k9oB3qecC5j89oB43qcC6wxoB3gecC7t5oB38mcC7s1oB38mcC7ztoB3o6cC30o9oB4jacC6wxoBfic
    Cb0poB3vyc
    @America/Glace_Bay -14388,-14400,-10800 C3.2.0/120,B11.1.0/120
    Bw2wun.1cC4ygjc.cB61qcC7aj5oB150mcC2dc9oB4r2cC5tkhoB5m6cC5m9oB5m6cC5m9oB5m6cC5m9oB5m6cC5m9oB5tyc
    C5ehoB5tycC5m9oB5m6cC5m9oB5m6cC5m9oB5m6cC5m9oB5m6cC5m9oB5tycC5ehoB5tycC5m9oB5m6cC5m9oB5m6cC5m9o
    B5m6cC4yxoB69icC4yxoB6hacC4r5oB6hacC4r5oB6hacC4yxoB69icC4yxoB69icC4yxoB6hacC4r5oB6hacC4r5oB6hac
    C4yxoB69icC4yxoB69icC4yxoB69icC4yxoB6hacC4r5oB6hacC4r5oB6hacC4yxoB69icC4yxoB69icC4yxoB6hacC4r5o
    B6hacC4r5oB6hacC43to
    @America/Goose_Bay -14500,-12652,-9052,-12600,-9000,-14400,-10800,-7200 G3.2.0/120,F11.1.0/120
    Bqax2p.14Caqgah.cB61qcD554ecEclbz.8D4jacE6p5oD4jacE6p5oD4jacE6wxoD4bicE6wxoD4jacE6p5oD4jacE6p5o
    D127loE6wxoD4jacE6p5oD4jacE6p5oD4jacE6p5oD4jacE6wxoD4jacE69loD4r2cE6hdoD4r2cE6hdoD4r2cE6hdoD4r2c
    E6hdoD4r2cE6p5oD4r2cE6hdoD4r2cE6hdoD4r2cE6hdoD4r2cE6hdoD5tycE5m9oD5m6cE5m9oD5m6cE5m9oD5m6cE5m9o
    D5m6cE5m9oD5tycF461oG18guF5tycG5m9oF5m6cG5m9oF5m6cG5m9oF5m6cG5m9oF5m6cG5m9oF5tycG5m9oF5m6cG5m9o
    F5m6cG5m9oF5m6cG5m9oF5m6cG5m9oF5tycG5ehoF5tycG5m9oF5m6cG5m9oF5m6cG5m9oF5m6cG5m9oF5m6cG5m9oF5tyc
    G5ehoF5tycG5m9oF5m6cG5m9oF5m6cG5m9oF5m6cG4yudF69icH4yxoF6h8oG4r7cF6hacG4r5oF6hacG4yxoF69icG4yxo
    F69icG4yxoF6hacG4r5oF6hacG4r5oF6hacG4yxoF69icG4yxoF69icG4yxoF69icG4yxoF6hacG4r5oF6hacG4r5oF6hac
    G4yxoF69icG4yxoF69icG4yxoF6hacG4r5oF6hacG4r5oF6hacG43toF7cecG3w1oF7cecG3w1oF7cecG43toF7cecG3w1o F7chn
    @America/Grand_Turk -17072,-18430,-18000,-14400 D3.2.0/120,C11.1.0/120
    Bs6knw.wC6wx4m.12Dl1zv4.1eC5m6cD5m9oC5m6cD5m9oC5m6cD5m9oC5tycD5ehoC5tycD5m9oC5m6cD5m9oC5m6cD5m9o
    C5m6cD4yxoC69icD4yxoC6hacD4r5oC6hacD4r5oC6hacD4yxoC69icD4yxoC69icD4yxoC6hacD4r5oC6hacD4r5oC6hac
    D4yxoC69icD4yxoC69icD4yxoC69icD4yxoC6hacD4r5oC6hacD4r5oC6hacD4yxoC69icD4yxoC69icD4yxoC6hacD4r5o
    C6hacD4r5oC6hacD43toC7cecD3w1oC7cecD3w1oC7cecD43toC7cecD3w1oC7cecD3w1oC7cecD3w1oC7cecD3w1oC7cec
    D3w1oC159ic
    @America/Guatemala -21724,-21600,-18000 - B116qq2.4Ch9lrx.1kB2t2cC2w3toB3tqcC2cjdoB56mcC4l3doB4r2c
    @America/Guayaquil -19160,-18840,-18000,-14400 - Bs6kov.kCcu5ru.14DjdwfmC24mc
    @America/Guyana -13959,-14400,-13500,-10800 - Byxtag.13C14dc7.lDix3zlB57t4f
    @America/Halifax -15264,-14400,-10800 C3.2.0/120,B11.1.0/120
    Bw2wv2.oC4bivl.10B5nacChad0B61qcCha6cB3gecC7ptoB3ricC7bdoB3y6cC7i1oB3qecC7i1oB44ucC73loB4kec
    C73loB3pacC73loB4kecC73loB3o6cC7k9oB3imcC7ptoB3x2cC7bdoB4cmcC6o1oB4kecC6o1oB4s6cC73loB3o6cC7zto
    B3pacC7k9oB38mcC73loB4kecC6o1oB4kecC7j5oB3pacC6vtoB4kecC6o1oB4kecC43x0B150mcC6hdoB4r2cC6hdoB4r2c
    C6hdoB4r2cC6hdoB4r2cChxloB4r2cC6hdoB4r2cC6hdoB4r2cC6hdoB4r2cChxloB4r2cC6hdoB4r2cC6hdoB4r2cC6hdo
    B4r2cCt61oB5m6cC5m9oB5m6cC5m9oB5m6cC5m9oB5tycC5ehoB5tycC5m9oB5m6cC5m9oB5m6cC5m9oB5m6cC5m9oB5m6c
    C5m9oB5tycC5m9oB5m6cC5m9oB5m6cC5m9oB5m6cC5m9oB5m6cC5m9oB5tycC5ehoB5tycC5m9oB5m6cC5m9oB5m6cC5m9o
    B5m6cC5m9oB5m6cC5m9oB5tycC5ehoB5tycC5m9oB5m6cC5m9oB5m6cC5m9oB5m6cC4yxoB69icC4yxoB6hacC4r5oB6hac
    C4r5oB6hacC4yxoB69icC4yxoB69icC4yxoB6hacC4r5oB6hacC4r5oB6hacC4yxoB69icC4yxoB69icC4yxoB69icC4yxo
    B6hacC4r5oB6hacC4r5oB6hacC4yxoB69icC4yxoB69icC4yxoB6hacC4r5oB6hacC4r5oB6hacC43to
    @America/Havana -19768,-19776,-18000,-14400 D3.2.0/0,C11.1.0/60
    Bs6kp5.sCb4p00.8Dwlv6.oC3ricD3n9loC2t2cD8fdoC30ucD8fdoC2t2cDuw9oC2t2cD8fdoC2t2cD5vcxoC3qecD7fto
    C3vycD5sxoC4s6cD6p5oC4jacD74poC5m6cD5m9oC5m6cD5m9oC5tycD5m9oC4yucD69loC4zycD68hoC512cD67doC5m6c
    D5m9oC5tycD5ehoC5tycD5u1oC4r2cD4yxoC6hacD4r5oC6hacD6hdoC4r2cD6hdoC4r2cD6hdoC4r2cD6hdoC4yucD69lo
    C4yucD4r5oC6hacD4r5oC6hacD4yxoC69icD4yxoC69icD5ehoC61qcD5ehoC5u00D5eg0C5u00D5eg0C5u00D5eg0C5u00
    D5eg0C5u00D5m80C5m80D5m80C5u00D56o0C6hc0D4r40C6p40D4r40C6hc0D4r40C6hc0D4yw0C69k0D4yw0C69k0D4r40
    Ct600D43s0C74o0D4bk0C6ww0D43s0C74o0D4bk0C74o0D4bk0C7cg0D4bk0
    @America/Hermosillo -26632,-25200,-21600 -
    B127aboC1pao0B12pacC54hoB4r2cC5ndoB35facCgw8t0B69icC4yxoB69icC4yxoB69ic
    @America/Indiana/Indianapolis -20678,-21600,-18000,-14400 D3.2.0/120,C11.1.0/120
    Bq9ku0Card3cB6hacC4r5oB6hacC6s4xoB30ucC44xoB150mcC6hdoB4r2cC6hdoB4r2cC6hdoB4r2cC6hdoB4r2cC6p5o
    B4jacC6p5oB4r2cC6hdoB4r2cC6hdoB4r2cC6hdoB4r2cC6hdoBrfqcC6hdoD3g0ecC5m6cD5m9oC5m6cDb3h5oC6hac D43to
    @America/Indiana/Knox -20790,-21600,-18000 C3.2.0/120,B11.1.0/120
    Bq9ku0Card3cB6hacC4r5oB6hacC6zapoB150mcChptoB4r2cC6hdoB4r2cC6hdoB4r2cC6p5oB4jacC6p5oB4r2cC6hdo
    B4r2cC6hdoB4r2cC6hdoB4r2cC6hdoB5tycC5m9oB5m6cC5m9oB4r2cC6hdoB4r2cC6hdoB5m6cC5m9oB5tycC5m9oB5m6c
    C5m9oBgumcC13jdoB5m6cC5m9oB5m6cC5m9oB5m6cC5m9oB5m6cC5m9oB5tycC5m9oB5m6cC5m9oB5m6cC25toB92mcC3o9o
    B7k6cC5m9oB5tycC5ehoB5tycC5m9oB5m6cC5m9oB5m6cC5m9oB5m6cC5m9oB5m6cC5m9oB5tycC5ehoB5tycC5m9oB5m6c
    C5m9oB5m6cC5m9oB5m6cC4yxoB69icC4yxoB6hacC4r5oB6hacC4r5oB6hacC4yxoB4vficC43to
    @America/Indiana/Marengo -20723,-21600,-18000,-14400 D3.2.0/120,C11.1.0/120
    Bq9ku0Card3cB6hacC4r5oB6hacC6zapoB150mcC1qvdoB4r2cCsy9oB4r2cC6hdoB4r2cC6p5oB4r2cC6hdoB4r2cC6hdo
    B4r2cC6hdoB4r2cC6hdoB4r2cC6p5oD2i3acC5m6cD5m9oC5m6cD5m9oC5tycD5m9oC5m6cD5m9oC5m6cDewpoC7k6c
    D9j35oC6hacD43to
    @America/Indiana/Petersburg -20947,-21600,-18000,-14400 D3.2.0/120,C11.1.0/120
    Bq9ku0Card3cB6hacC4r5oB6hacC6zapoB150mcC300ucB4jdoC6p5oB4r2cC6hdoB4r2cC6hdoB4r2cC6hdoB4r2cC6hdo
    B4r2cC6p5oB5m6cC5m9oB5m6cC5m9oB5m6cC5m9oB5m6cC5m9oBh2ecC5m9oB5m6cC5m9oB5m6cC5m9oB5m6cC5m9oB5m6c
    C5m9oB5tycC5m9oB5m6cC5m9oB5m6cC25toB92mcC3o9oB7k6cC5m9oB5tycC5ehoB98pqcC43toDb8ec
    @America/Indiana/Tell_City -20823,-21600,-18000,-14400 C3.2.0/120,B11.1.0/120
    Bq9ku0Card3cB6hacC4r5oB6hacC6zapoB150mcC300ucB4jdoC6p5oB4r2cC6hdoB4r2cC6hdoB4r2cC6hdoB4r2cC6hdo
    B4r2cC6p5oB5m6cC5m9oB5m6cC5m9oB5m6cC5m9oB13jacC5m9oB5m6cD5m9oC5m4oD5m9oC5m6cBb9yhoC43to
    @America/Indiana/Vevay -20416,-21600,-18000,-14400 D3.2.0/120,C11.1.0/120
    Bq9ku0Card3cB6hacC4r5oB6hacC6zapoB150mcC2okpoD4p5ycC5m6cD5m9oC5m6cD5m9oC5tycD5m9oC5m6cDagsho C6hacD43to
    @America/Indiana/Vincennes -21007,-21600,-18000,-14400 D3.2.0/120,C11.1.0/120
    Bq9ku0Card3cB6hacC4r5oB6hacC6zapoB150mcC6hdoB4r2cC223toB4r2cC6hdoB4r2cC6p2cB4jdoC6p5oB4r2cC6hdo
    B4r2cC6hdoB4r2cC6hdoB4r2cC6hdoB5tycC5m9oB4jacC6p5oB5m6cC5m9oB5m6cC5m9oD1kdycC5m6cD5m9oC5m6c
    Bb9yhoC43toDb8ec
    @America/Indiana/Winamac -20785,-21600,-18000,-14400 D3.2.0/120,C11.1.0/120
    Bq9ku0Card3cB6hacC4r5oB6hacC6zapoB150mcC6hdoB4r2cC6hdoB4r2cC6hdoB4r2cC6hdoB4r2cC6p5oB4jacC6p5o
    B4r2cC6hdoB4r2cC6hdoB4r2cC6hdoB4r2cC6hdoB5tycC5m9oB5m6cC5m9oB4r2cC6hdoB4r2cC6hdoB4r2cC6hdoB4r2c
    C6p5oD2i3acC5m6cD5m9oC5m6cBb9yhoD43to
    @America/Inuvik 0,-28800,-25200,-21600 D3.2.0/120,C11.1.0/120
    B1bwr40C61vsoB5m6cC5m9oB5m6cC5m9oB5m6cC5m9oB5m6cC5m9oB5tycC5ehoB5tycC5m9oB5m6cD5m9oC5m4oD5m9o
    C5m6cD5m9oC5m6cD5m9oC5tycD5ehoC5tycD5m9oC5m6cD5m9oC5m6cD5m9oC5m6cD4yxoC69icD4yxoC6hacD4r5oC6hac
    D4r5oC6hacD4yxoC69icD4yxoC69icD4yxoC6hacD4r5oC6hacD4r5oC6hacD4yxoC69icD4yxoC69icD4yxoC69icD4yxo
    C6hacD4r5oC6hacD4r5oC6hacD4yxoC69icD4yxoC69icD4yxoC6hacD4r5oC6hacD4r5oC6hacD43to
    @America/Iqaluit 0,-14400,-18000,-21600 B3.2.0/120,C11.1.0/120
    B18na80Czoq0B8bntoC5m6cB5m9oC5m6cB5m9oC5m6cB5m9oC5m6cB5m9oC5tycB5ehoC5tycB5m9oC5m6cB5m9oC5m6c
    B5m9oC5m6cB5m9oC5m6cB5m9oC5tycB5ehoC5tycB5m9oC5m6cB5m9oC5m6cB5m9oC5m6cB4yxoC69icB4yxoC6hacB4r5o
    C6hacB4r5oC6hacB4yxoC69icB4yxoC69icB4yxoC6hacB4r5oC6hacB4r5oC6hacB4yxoC69icB4yxoC69icB4yxoC69ic
    B4yxoD6hacC4r7cBb8ecC6hacB4yxoC69icB4yxoC69icB4yxoC6hacB4r5oC6hacB4r5oC6hacB43to
    @America/Jamaica -18430,-18000,-14400 -
    Bz3hsj.aCje5f4.1eB92mcC3o9oB7k6cC5m9oB5tycC5ehoB5tycC5m9oB5m6cC5m9oB5m6cC5m9oB5m6cC5m9oB5m6c
    C5m9oB5tycC5ehoB5tyc
    @America/Juneau 54139,-32261,-28800,-25200,-32400 C3.2.0/120,E11.1.0/120
    Bl89cv.dCaa6i2.sDczilq.jC150mcD7dqpoC5m6cD5m9oC5m6cD5m9oC5tycD5m9oC5m6cD5m9oC5m6cD25toC92mcD3o9o
    C7k6cD5m9oC5tycD5ehoC5tycD5m9oC5m6cD5m9oC5m6cDgupoC5m6cD5m9oC5tycD5ehoE5tycC5mbcE5m6cC5m9oE5m6c
    C5m9oE5m6cC4yxoE69icC4yxoE6hacC4r5oE6hacC4r5oE6hacC4yxoE69icC4yxoE69icC4yxoE6hacC4r5oE6hacC4r5o
    E6hacC4yxoE69icC4yxoE69icC4yxoE69icC4yxoE6hacC4r5oE6hacC4r5oE6hacC4yxoE69icC4yxoE69icC4yxoE6hac
    C4r5oE6hacC4r5oE6hacC43to
    @America/Kentucky/Louisville -20582,-21600,-18000,-14400 D3.2.0/120,C11.1.0/120
    Bq9ku0Card3cB6hacC4r5oB6hacCh2hoB3smcC65jloB4r2cC44xoB150mcC6hadB12xnC182poB4jacC6p5oB4r2cC6hdo
    B4r2cC6hdoB4r2cC6hdoB4r2cC6hdoB4r2cC6p5oB5m6cC5m9oB5m6cC5m9oB5m6cC5m9oB5m6cC5m9oB5tycC5m9oD26uuc
    C5m6cD5m9oC5m6cD5m9oC5m6cD5m9oC5tycD5m9oC5m6cD5m9oC5m6cDewpoC7k6cD5m9oC5tycD5ehoC5tycD5m9oC5m6c
    D5m9oC5m6cD5m9oC5m6cD5m9oC5m6cD5m9oC5tycD5ehoC5tycD5m9oC5m6cD5m9oC5m6cD5m9oC5m6cD4yxoC69icD4yxo
    C6hacD4r5oC6hacD4r5oC6hacD4yxoC69icD4yxoC69icD4yxoC6hacD4r5oC6hacD4r5oC6hacD4yxoC69icD4yxoC69ic
    D4yxoC69icD4yxoC6hacD4r5oC6hacD4r5oC6hacD4yxoC69icD4yxoC69icD4yxoC6hacD4r5oC6hacD4r5oC6hacD43to
    @America/Kentucky/Monticello -20364,-21600,-18000,-14400 D3.2.0/120,C11.1.0/120
    Bq9ku0Card3cB6hacC4r5oB6hacC6zapoB150mcC72i9oB5m6cC5m9oB5m6cC5m9oB5m6cC5m9oB5tycC5m9oB5m6cC5m9o
    B5m6cC25toB92mcC3o9oB7k6cC5m9oB5tycC5ehoB5tycC5m9oB5m6cC5m9oB5m6cC5m9oB5m6cC5m9oB5m6cC5m9oB5tyc
    C5ehoB5tycC5m9oB5m6cC5m9oB5m6cC5m9oB5m6cC4yxoB69icC4yxoB6hacC4r5oB6hacC4r5oB6hacC4yxoB69icC4yxo
    B69icC4yxoB6hacC4r5oB6hacC4r5oB6hacC4yxoB69icC4yxoB69icC4yxoB69icC4yxoB6hacC4r5oDb8ecC6hacD4yxo
    C69icD4yxoC69icD4yxoC6hacD4r5oC6hacD4r5oC6hacD43to
    @America/La_Paz -16356,-12756,-14400 - B159lbk.10C4vic
    @America/Lima -18492,-18516,-18000,-14400 -
    Bs6kok.cC5tbk0.oD97rbr.oC2rycD5gpoC5m6cD5m9oC5m6cDec0poC2rycD8hloC2rycDv1toC2rycD16bdoC2ryc
    @America/Los_Angeles -28378,-28800,-25200 C3.2.0/120,B11.1.0/120
    Bq9kxcCard3cB6hacC4r5oB6hacC6zapoB150mcCrnlpB91ibCexs0B4jc0C6p40B4r40C6hc0B4r40C6hc0B4r40C6hc0
    B4r40C6hc0B4r40C6p40B4r40C6hc0B4r40C6hc0B4r40C6hc0B4r40C6hc0B4r40C6p40B4jc0C6p40B5m80C5m80B5m80
    C5m80B5m80C5m80B5u00C5eg0B5u00C5m9oB5m6cC5m9oB5m6cC5m9oB5m6cC5m9oB5m6cC5m9oB5tycC5m9oB5m6cC5m9o
    B5m6cC25toB92mcC3o9oB7k6cC5m9oB5tycC5ehoB5tycC5m9oB5m6cC5m9oB5m6cC5m9oB5m6cC5m9oB5m6cC5m9oB5tyc
    C5ehoB5tycC5m9oB5m6cC5m9oB5m6cC5m9oB5m6cC4yxoB69icC4yxoB6hacC4r5oB6hacC4r5oB6hacC4yxoB69icC4yxo
    B69icC4yxoB6hacC4r5oB6hacC4r5oB6hacC4yxoB69icC4yxoB69icC4yxoB69icC4yxoB6hacC4r5oB6hacC4r5oB6hac
    C4yxoB69icC4yxoB69icC4yxoB6hacC4r5oB6hacC4r5oB6hacC43to
    @America/Maceio -8572,-10800,-7200 -
    Bzp3fy.1gC5k4zd.8B5kk0C5ploB5jycC57whoB4740C72g0B3qecC7j5oB3ricC7j5oB2rycC3dg9oB2k6cCaddoB1tic
    C7k9oB2rycC7k9oB3pacC7k9oB3qecC5j89oB43qcC6wxoB3gecC7t5oB38mcC7s1oB38mcC7ztoB3o6cC1ry9oB3o6c
    C151toB4jacC6wxoBficCb0poB3vyc
    @America/Managua -20708,-20712,-21600,-18000 -
    Bs6kpl.8Cdxbs0.4Dc60we.1cCk8ucD1a0poC31ycD86hoC31ycD3lwwcC88foD321oC193acD2l8poC5eecD6hh0C4r0o
    @America/Manaus -14404,-14400,-10800 -
    Bzp3io.4C5k4yb.1kB5kk0C5ploB5jycC57whoB4740C72g0B3qecC7j5oB3ricC7j5oB2rycC3dg9oB2k6cCaddoB1tic
    C7k9oB2rycC7k9oB3pacC7k9oB3qecC5j89oB43qcC6wxoB3gecC7t5oB38mcC1s61oB3vyc
    @America/Martinique -14660,-14400,-10800 - Byuz2s.kCll3jv.14B5eec
    @America/Matamoros -23400,-21600,-18000 C3.2.0/120,B11.1.0/120
    B127aa0CkqvvcB6hacC2bttoB69icC4yxoB69icC4yxoB69icC4yxoB6hacC4r5oB6hacC5u1oB4jacC5u1oB69icC4yxo
    B69icC4yxoB6hacC4r5oB6hacC4r5oB6hacC4r5oB6hacC4yxoB69icC4yxoB69icC4blo
    @America/Mazatlan -25540,-25200,-21600 -
    B127aboC1pao0B12pacC54hoB4r2cC5ndoB35facCgw8t0B69icC4yxoB69icC4yxoB69icC4yxoB6hacC4r5oB6hacC5u1o
    B4jacC5u1oB69icC4yxoB69icC4yxoB6hacC4r5oB6hacC4r5oB6hacC4r5oB6hacC4yxoB69icC4yxoB69icC4yxoB6hac
    C4r5oB6hacC4r5oB6hacC4yxoB69icC4yxoB69icC4yxoB69icC4yxoB6hacC4r5oB6hacC4r5oB6hacC4yxoB69icC4yxo
    B69icC4yxoB6hacC4r5oB6hac
    @America/Menominee -21027,-21600,-18000 C3.2.0/120,B11.1.0/120
    Bqu99q.rCa6onl.xB6hacC4r5oB6hacC6zapoB150mcC6hdoB4r2cC64l5oB5tycCs35oB1erqcC25toB92mcC3o9oB7k6c
    C5m9oB5tycC5ehoB5tycC5m9oB5m6cC5m9oB5m6cC5m9oB5m6cC5m9oB5m6cC5m9oB5tycC5ehoB5tycC5m9oB5m6cC5m9o
    B5m6cC5m9oB5m6cC4yxoB69icC4yxoB6hacC4r5oB6hacC4r5oB6hacC4yxoB69icC4yxoB69icC4yxoB6hacC4r5oB6hac
    C4r5oB6hacC4yxoB69icC4yxoB69icC4yxoB69icC4yxoB6hacC4r5oB6hacC4r5oB6hacC4yxoB69icC4yxoB69icC4yxo
    B6hacC4r5oB6hacC4r5oB6hacC43to
    @America/Merida -21508,-21600,-18000 -
    B127aa0Cis7fcB9licC47e1oB69icC4yxoB69icC4yxoB69icC4yxoB6hacC4r5oB6hacC5u1oB4jacC5u1oB69icC4yxo
    B69icC4yxoB6hacC4r5oB6hacC4r5oB6hacC4r5oB6hacC4yxoB69icC4yxoB69icC4yxoB6hacC4r5oB6hacC4r5oB6hac
    C4yxoB69icC4yxoB69icC4yxoB69icC4yxoB6hacC4r5oB6hacC4r5oB6hacC4yxoB69icC4yxoB69icC4yxoB6hacC4r5o B6hac
    @America/Metlakatla 54822,-31578,-28800,-25200,-32400 C3.2.0/120,E11.1.0/120
    Bl89cv.dCaa6hr.5Dczim1.16C150mcD7dqpoC5m6cD5m9oC5m6cD5m9oC5tycD5m9oC5m6cD5m9oC5m6cD25toC92mc
    D3o9oC7k6cD5m9oC5tycD5ehoC5tycD5m9oC5m6cD5m9oC5m6cD5m9oC5m6cD5m9oC5m6cD5m9oC5tycD5ehoC5tycEa0sxo
    C43toE7cecC3w1oE7cecC3w1oE9pyc
    @America/Mexico_City -23796,-25200,-21600,-18000 -
    B127aboC1pao0B12pacC54hoB4r2cC5ndoD256ucC4bicDgg9oC3hicDuixoC486cD1t7toC56mcDeb2d0C69icD4yxo
    C69icD4yxoC69icD4yxoC6hacD4r5oC6hacD5u1oC4jacD5u1oC69icD4yxoC69icD4yxoC6hacD4r5oC6hacD4r5oC6hac
    D4r5oC6hacD4yxoC69icD4yxoC69icD4yxoC6hacD4r5oC6hacD4r5oC6hacD4yxoC69icD4yxoC69icD4yxoC69icD4yxo
    C6hacD4r5oC6hacD4r5oC6hacD4yxoC69icD4yxoC69icD4yxoC6hacD4r5oC6hac
    @America/Miquelon -13480,-14400,-10800,-7200 D3.2.0/120,C11.1.0/120
    Bywd28.14Clkhcf.kD2635oC69icD4yxoC6hacD4r5oC6hacD4r5oC6hacD4yxoC69icD4yxoC69icD4yxoC6hacD4r5o
    C6hacD4r5oC6hacD4yxoC69icD4yxoC69icD4yxoC69icD4yxoC6hacD4r5oC6hacD4r5oC6hacD4yxoC69icD4yxoC69ic
    D4yxoC6hacD4r5oC6hacD4r5oC6hacD43to
    @America/Moncton -15548,-18000,-14400,-10800 D3.2.0/120,C11.1.0/120
    Bqa7j7.8C5spd4.1gD4yghoC61qcD4kug0C2t2cD8fdoC2t2cD8fdoC2t2cD8fdoC2t2cD8fdoC2t2cD8fdoC2t2cD86ho
    C3o6cD7dloC3uucD6y1oC4i6cD463cC150mcD6hdoC4r2cD6hdoC4r2cD6hdoC4r2cD6hdoC4r2cD6p5oC4jacD6p5oC4r2c
    D6hdoC4r2cD6hdoC4r2cD6hdoC4r2cD6hdoC4r2cD6p5oC4r2cD6hdoC5m6cD5m9oC5m6cD5m9oC5m6cD5m9oC5tycD5m9o
    C5m6cD5m9oC5m6cD5m9oC5m6cD5m9oC5m6cD5m9oC5tycD5ehoC5tycD5m9oC5m6cD5m9oC5m6cD5m9oC5m6cD5m9oC5m6c
    D5m9oC5tycD5m9oC5m6cDgupoC5m6cD5m9oC5m6cD5m9oC5tycD5ehoC5tycD5m9oC5m6cD5m9oC5m6cD5m9oC5m6cD5m9o
    C5m6cD5m9oC5tycD5ehoC5tycD5m9oC5m6cD5m9oC5m6cD5m9oC5m6cD4yxoC69icD4yxoC6hacD4r5oC6hacD4r5oC6hac
    D4yxoC69icD4yxoC69icD4yudC6hacD4r5oC6hacD4r5oC6hacD4yxoC69icD4yxoC69icD4yxoC69icD4yxoC6hacD4r5o
    C6hacD4r5oC6hacD4yxoC69icD4yxoC69icD4yxoC6hacD4r5oC6hacD4r5oC6hacD43wz
    @America/Monterrey -24076,-25200,-21600,-18000 -
    B127aa0C1papoB12pacC54hoB4r2cC5ndoDhjcxoC6hacD2bttoC69icD4yxoC69icD4yxoC69icD4yxoC6hacD4r5oC6hac
    D5u1oC4jacD5u1oC69icD4yxoC69icD4yxoC6hacD4r5oC6hacD4r5oC6hacD4r5oC6hacD4yxoC69icD4yxoC69icD4yxo
    C6hacD4r5oC6hacD4r5oC6hacD4yxoC69icD4yxoC69icD4yxoC69icD4yxoC6hacD4r5oC6hacD4r5oC6hacD4yxoC69ic
    D4yxoC69icD4yxoC6hacD4r5oC6hac
    @America/Montevideo -13491,-14400,-10800,-12600,-9000,-7200,-5400 -
    B11oge8.1fC12iof.9D5nacC5ncuD5m76C5ncuD5m76C2dfkuD4r36C6hcuD4r36C6hcuD4r36C6hcuD4r36C6p4uD4jb6
    C6p4uD4jb6C5u0uD5m76C6hcuD4r36C3tsuEffj6C2rz6E52k8uC5ef6F1y0uC1iecF1l95oC5eecEu29oC5sv6Ffqou
    C1jicFkyhoC2lacGgupoE1q5iC5ehoF3gguC30ucFjg1oC2dicF8fdoC2t2cF8uxoC2dicF1q9oC9xqcF2fbdoC2cecF8uxo
    C2lacF7choC3o6cF7choC43qcF7choC3vycF74poC43qcF3ma1oC5u1oF61toC4r2cF69loC4yucF6hdoC4r2cF6hdoC4r2c
    F6hdoC4yucF69loC4yucF69loC4yucF6hdoC4r2cF6hdoC4r2cF6hdoC4r2c
    @America/New_York -17762,-18000,-14400 C3.2.0/120,B11.1.0/120
    Bq9kscCard3cB6hacC4r5oB6hacC4r5oB6p2cC5ehoB4r2cC6p5oB4jacC6p5oB4r2cC6hdoB4r2cC6hdoB4r2cC6hdo
    B4r2cC6hdoB4r2cC6p5oB4r2cC6hdoB4r2cC6hdoB4r2cC6hdoB4r2cC6hdoB4r2cC6p5oB4jacC6p5oB4r2cC6hdoB4r2c
    C6hdoB4r2cC6hdoB4r2cC6hdoB4r2cC6p5oB4jacC6p5oB4r2cC6hdoB4r2cC44xoB150mcC6hdoB4r2cC6hdoB4r2cC6hdo
    B4r2cC6hdoB4r2cC6p5oB4jacC6p5oB4r2cC6hdoB4r2cC6hdoB4r2cC6hdoB4r2cC6hdoB5tycC5m9oB5m6cC5m9oB5m6c
    C5m9oB5m6cC5m9oB5m6cC5m9oB5tycC5m9oB5m6cC5m9oB5m6cC5m9oB5m6cC5m9oB5m6cC5m9oB5tycC5ehoB5tycC5m9o
    B5m6cC5m9oB5m6cC5m9oB5m6cC5m9oB5m6cC5m9oB5tycC5m9oB5m6cC5m9oB5m6cC25toB92mcC3o9oB7k6cC5m9oB5tyc
    C5ehoB5tycC5m9oB5m6cC5m9oB5m6cC5m9oB5m6cC5m9oB5m6cC5m9oB5tycC5ehoB5tycC5m9oB5m6cC5m9oB5m6cC5m9o
    B5m6cC4yxoB69icC4yxoB6hacC4r5oB6hacC4r5oB6hacC4yxoB69icC4yxoB69icC4yxoB6hacC4r5oB6hacC4r5oB6hac
    C4yxoB69icC4yxoB69icC4yxoB69icC4yxoB6hacC4r5oB6hacC4r5oB6hacC4yxoB69icC4yxoB69icC4yxoB6hacC4r5o
    B6hacC4r5oB6hacC43to
    @America/Nome 46702,-39698,-39600,-36000,-32400,-28800 F3.2.0/120,E11.1.0/120
    Bl89cv.dCaa6li.pDczina.mC150mcD7dqpoC5m6cD5m9oC5m6cD5m9oC5tycD5m9oC5m6cD5m9oC5m6cD25toC92mcD3o9o
    C7k6cD5m9oC5tycD5ehoC5tycD5m9oC5m6cD5m9oC5m6cD5m9oC5m6cD5m9oC5m6cD5m9oC5tycD5ehoE5tycF5m6cE5m6c
    F5m9oE5m6cF5m9oE5m6cF4yxoE69icF4yxoE6hacF4r5oE6hacF4r5oE6hacF4yxoE69icF4yxoE69icF4yxoE6hacF4r5o
    E6hacF4r5oE6hacF4yxoE69icF4yxoE69icF4yxoE69icF4yxoE6hacF4r5oE6hacF4r5oE6hacF4yxoE69icF4yxoE69ic
    F4yxoE6hacF4r5oE6hacF4r5oE6hacF43to
    @America/Noronha -7780,-7200,-3600 -
    Bzp3fl.14C5k4y2.kB5kk0C5ploB5jycC57whoB4740C72g0B3qecC7j5oB3ricC7j5oB2rycC3dg9oB2k6cCaddoB1tic
    C7k9oB2rycC7k9oB3pacC7k9oB3qecC5j89oB43qcC6wxoB3gecC7t5oB38mcC7s1oB38mcC7ztoB3o6cC30o9oB4jac
    C6wxoB7qcCb8hoB3vyc
    @America/North_Dakota/Beulah -24427,-25200,-21600,-18000 D3.2.0/120,C11.1.0/120
    Bq9kvoCard3cB6hacC4r5oB6hacC6zapoB150mcC6r9toB5m6cC5m9oB5m6cC5m9oB5m6cC5m9oB5m6cC5m9oB5tycC5m9o
    B5m6cC5m9oB5m6cC25toB92mcC3o9oB7k6cC5m9oB5tycC5ehoB5tycC5m9oB5m6cC5m9oB5m6cC5m9oB5m6cC5m9oB5m6c
    C5m9oB5tycC5ehoB5tycC5m9oB5m6cC5m9oB5m6cC5m9oB5m6cC4yxoB69icC4yxoB6hacC4r5oB6hacC4r5oB6hacC4yxo
    B69icC4yxoB69icC4yxoB6hacC4r5oB6hacC4r5oB6hacC4yxoB69icC4yxoB69icC4yxoB69icC4yxoB6hacC4r5oB6hac
    C4r5oB6hacC4yxoB69icC4yxoB69icC4yxoB6hacC4r5oB6hacC4r5oB6hacC43toB7cecC3w1oB7cecC3w1oB7cecC43to Db8ec
    @America/North_Dakota/Center -24312,-25200,-21600,-18000 D3.2.0/120,C11.1.0/120
    Bq9kvoCard3cB6hacC4r5oB6hacC6zapoB150mcC6r9toB5m6cC5m9oB5m6cC5m9oB5m6cC5m9oB5m6cC5m9oB5tycC5m9o
    B5m6cC5m9oB5m6cC25toB92mcC3o9oB7k6cC5m9oB5tycC5ehoB5tycC5m9oB5m6cC5m9oB5m6cC5m9oB5m6cC5m9oB5m6c
    C5m9oB5tycC5ehoB5tycC5m9oB5m6cC5m9oB5m6cC5m9oB5m6cC4yxoB69icC4yxoB6hacC4r5oB6hacC4r5oB6hacC4yxo
    B69icC4yxoDb8ecC6hacD4r5oC6hacD4r5oC6hacD4yxoC69icD4yxoC69icD4yxoC69icD4yxoC6hacD4r5oC6hacD4r5o
    C6hacD4yxoC69icD4yxoC69icD4yxoC6hacD4r5oC6hacD4r5oC6hacD43to
    @America/North_Dakota/New_Salem -24339,-25200,-21600,-18000 D3.2.0/120,C11.1.0/120
    Bq9kvoCard3cB6hacC4r5oB6hacC6zapoB150mcC6r9toB5m6cC5m9oB5m6cC5m9oB5m6cC5m9oB5m6cC5m9oB5tycC5m9o
    B5m6cC5m9oB5m6cC25toB92mcC3o9oB7k6cC5m9oB5tycC5ehoB5tycC5m9oB5m6cC5m9oB5m6cC5m9oB5m6cC5m9oB5m6c
    C5m9oB5tycC5ehoB5tycC5m9oB5m6cC5m9oB5m6cC5m9oB5m6cC4yxoB69icC4yxoB6hacC4r5oB6hacC4r5oB6hacC4yxo
    B69icC4yxoB69icC4yxoB6hacC4r5oB6hacC4r5oB6hacC4yxoB69icC4yxoB69icC4yxoB69icC4yxoB6hacC4r5oB6hac
    C4r5oB6hacC4yxoB69icC4yxoDb8ecC6hacD4r5oC6hacD4r5oC6hacD43to
    @America/Nuuk -12416,-10800,-7200,-3600 D3.5.0/-60,C10.5.0/0
    B10i2tq.1kCjxzul.4B5e9cC5m80B5m80C5m80B5m80C5m80B5m80C5m80B5u00C5m80B5m80C5m80B5m80C5m80B5m80
    C5m80B5m80C5m80B5m80C5m80B5u00C5m80B5m80C5m80B5m80C5m80B5m80C5m80B5m80C5m80B5m80C5u00B6hc0C4r40
    B6hc0C4r40B6hc0C4r40B6p40C4jc0B6p40C4jc0B6p40C4r40B6hc0C4r40B6hc0C4r40B6p40C4jc0B6p40C4jc0B6p40
    C4jc0B6p40C4r40B6hc0C4r40B6hc0C4r40B6p40C4jc0B6p40C4jc0B6p40C4r40B6hc0C4r40B6hc0C4r40B6hc0C4r40
    B6p40C4jc0B6p40C4jc0B6p40C4r40B6hc0C4r40B6hc0C4r40B6p40C4jc0B6p40C4jc0Dbg80
    @America/Ojinaga -25060,-25200,-21600,-18000 D3.2.0/120,C11.1.0/120
    B127aboC1pao0B12pacC54hoB4r2cC5ndoDk1o1oC69icD4yxoC69icBb8hoC4yxoB6hacC4r5oB6hacC5u1oB4jacC5u1o
    B69icC4yxoB69icC4yxoB6hacC4r5oB6hacC4r5oB6hacC4r5oB6hacC4yxoB69icC4yxoB69icC4bloB7cecC3w1oB7cec
    C3w1oB7cecC3w1oB7cecC3w1oB7cecC3w1oB7cecC43toB7cecC3w1oB7cecC3w1oB7cecC3w1oB7cecC3w1oB7cecC43to
    B7cecC3w1oDb8ec
    @America/Panama -19088,-19176,-18000 - Bs6kou.8C5qbs1.s
    @America/Paramaribo -13240,-13252,-13236,-12600,-10800 - Byr9q4.14C7ik00.cD3d67z.18Ec7nrp.o
    @America/Phoenix -26898,-25200,-21600 - Bq9kvoCard3cB6hacC4r5oB6hacC6zapoBlbn1C2t5oB5nacC72iczB5m6c
    @America/Port-au-Prince -17360,-17340,-18000,-14400 D3.2.0/120,C11.1.0/120
    Bs6ko1.kC8h2rz.14Dkr7gbC5eecD5m9oC5m6cD5m9oC5m6cD5m9oC5m6cD5m9oC5m6cD4yzcC6hc0D4r40C6hc0D4r40
    C6hc0D4yw0C69k0D4yw0C69k0D4yw0C6hc0D4r40C6hc0D4r40C6hc0D4yw0C69k0D4yw0C69k0D2btqcC6hacD4r5oC6hac
    D1ohx0C7cecD3w1oC7cecD3w1oC7cecD3w1oC7cecDfc9o
    @America/Porto_Velho -15336,-14400,-10800 -
    Bzp3j3.10C5k4xw.oB5kk0C5ploB5jycC57whoB4740C72g0B3qecC7j5oB3ricC7j5oB2rycC3dg9oB2k6cCaddoB1tic
    C7k9oB2rycC7k9oB3pacC7k9oB3qecC5j89oB43qcC6wxoB3gecC7t5oB38mc
    @America/Puerto_Rico -15865,-14400,-10800 - Bv2ozc.pCdhtfb.zB12gho
    @America/Punta_Arenas -17020,-16965,-18000,-14400,-10800 -
    Bs6knv.14C69pjz.5B20yoh.fDopzi.19B92mt.fD2k3l6.19C6kmt.fD4q1oC6jicD4q1oC6jicD4q1oC6jicD4q1oC6kmc
    D4q1oC31vicD1vtoC1glacD1ko0E6puo0D4jacE7choD3vycE61toD4r2cE6hdoD4r2cE6p5oD4jacE69loD4yucE6p5o
    D4jacE6p5oD4r2cE6hdoD4r2cE6hdoD4r2cE6p5oD4jacE6p5oD4jacE6p5oD4r2cE6hdoD4r2cE6hdoD4r2cE6hdoD4r2c
    E6p5oD4jacE6p5oD4jacE6p5oD5m6cE5m9oD4r2cE6hdoD4r2cE6p5oD4jacE5u1oD5eecE6p5oD4r2cE6hdoD4r2cE6hdo
    D4r2cE6hdoD4r2cE6p5oD4jacE6p5oD56mcE61toD4r2cE61toD5tycE5u1oD4r2cE6p5oD4jacE6p5oD4jacE6p5oD4jac
    E6p5oD4r2cE6hdoD4r2cE6hdoD4r2cE6p5oD4jacE6p5oD56mcE61toD4r2cE6hdoD5eecE5u1oD6hacE38poD7rycE3w1o
    D7cecE43toD74mcE43toDj0ecE2t5o
    @America/Rankin_Inlet 0,-21600,-18000 C3.2.0/120,B11.1.0/120
    B1d5ug0C4ssdcB5m6cC5m9oB5m6cC5m9oB5m6cC5m9oB5m6cC5m9oB5tycC5ehoB5tycC5m9oB5m6cC5m9oB5m6cC5m9o
    B5m6cC5m9oB5m6cC5m9oB5tycC5ehoB5tycC5m9oB5m6cC5m9oB5m6cC5m9oB5m6cC4yxoB69icC4yxoB6hacC4r5oB6hac
    C4r5oB6hacC4yxoB69icC4yxoB69icC4yxoB6hacC4r5oB6hacC4r5oB6hacC4yxoB69icC4yxoB69icC4yxoB69icC4yxo
    B6hacC4r5oBhpqcC4yxoB69icC4yxoB69icC4yxoB6hacC4r5oB6hacC4r5oB6hacC43to
    @America/Recife -8376,-10800,-7200 -
    Bzp3fv.10C5k4zg.oB5kk0C5ploB5jycC57whoB4740C72g0B3qecC7j5oB3ricC7j5oB2rycC3dg9oB2k6cCaddoB1tic
    C7k9oB2rycC7k9oB3pacC7k9oB3qecC5j89oB43qcC6wxoB3gecC7t5oB38mcC7s1oB38mcC7ztoB3o6cC30o9oB4jac
    C6wxoB7qcCb8hoB3vyc
    @America/Regina -25116,-25200,-21600 -
    Bx35fm.10C3y83d.oB61qcC3luecB4r2cC6hdoB4r2cC6hdoB4r2cC6p5oB4jacC6p5oB4r2cCsaxoB5m6cC5m9oB5eec
    C5u1oB5m6cC5u1oB5m6cC5m9oB5m6cC3ph0B150mcC61toB5m6cC61toB4r2cC6hdoB4r2cC6hdoB4r2cC6p5oB4jacC6p5o
    B4r2cC6hdoB4r2cC6hdoB4r2cC6hdoB4r2cC6hdoB4r2cC6p5oB4r2cC6hdoB4r2cChptoB5m6cC5m9o
    @America/Resolute 0,-21600,-18000 C3.2.0/120,B11.1.0/120
    B1a8kg0C7q2dcB5m6cC5m9oB5m6cC5m9oB5m6cC5m9oB5m6cC5m9oB5tycC5ehoB5tycC5m9oB5m6cC5m9oB5m6cC5m9o
    B5m6cC5m9oB5m6cC5m9oB5tycC5ehoB5tycC5m9oB5m6cC5m9oB5m6cC5m9oB5m6cC4yxoB69icC4yxoB6hacC4r5oB6hac
    C4r5oB6hacC4yxoB69icC4yxoB69icC4yxoB6hacC4r5oB6hacC4r5oB6hacC4yxoB69icC4yxoB69icC4yxoB69icC4yxo
    B6hacC4r5oBhpqcC4yxoB69icC4yxoB69icC4yxoB6hacC4r5oB6hacC4r5oBhxic
    @America/Rio_Branco -16272,-18000,-14400 -
    Bzp3jj.cC5k4z4.1cB5kk0C5ploB5jycC57whoB4740C72g0B3qecC7j5oB3ricC7j5oB2rycC3dg9oB2k6cCaddoB1tic
    C7k9oB2rycC7k9oB3pacC7k9oB3qecC5j89oB43qcC6wxoB3gecC7t5oB38mcC6dq1oB1onac
    @America/Santarem -13128,-14400,-10800 -
    Bzp3i2.1cC5k4yx.cB5kk0C5ploB5jycC57whoB4740C72g0B3qecC7j5oB3ricC7j5oB2rycC3dg9oB2k6cCaddoB1tic
    C7k9oB2rycC7k9oB3pacC7k9oB3qecC5j89oB43qcC6wxoB3gecC7t5oB38mcC6dq1o
    @America/Santiago -16965,-18000,-14400,-10800 D9.1.6/1440,C4.1.6/1440
    Byga7u.19A20yoh.fCopzi.19A92mt.fC2k3l6.19B6kmt.fC4q1oB6jicC4q1oB6jicC4q1oB6jicC4q1oB6kmcC4q1o
    B31vicC1vtoD18kecC1dycB6mxoC1ko0D6puo0C4jacD7choC3vycD61toC4r2cD6hdoC4r2cD6p5oC4jacD69loC4yuc
    D6p5oC4jacD6p5oC4r2cD6hdoC4r2cD6hdoC4r2cD6p5oC4jacD6p5oC4jacD6p5oC4r2cD6hdoC4r2cD6hdoC4r2cD6hdo
    C4r2cD6p5oC4jacD6p5oC4jacD6p5oC5m6cD5m9oC4r2cD6hdoC4r2cD6p5oC4jacD5u1oC5eecD6p5oC4r2cD6hdoC4r2c
    D6hdoC4r2cD6hdoC4r2cD6p5oC4jacD6p5oC56mcD61toC4r2cD61toC5tycD5u1oC4r2cD6p5oC4jacD6p5oC4jacD6p5o
    C4jacD6p5oC4r2cD6hdoC4r2cD6hdoC4r2cD6p5oC4jacD6p5oC56mcD61toC4r2cD6hdoC5eecD5u1oC6hacD38poC7ryc
    D3w1oC7cecD43toC74mcD43toCj0ecD2t5oC8facD2t5oC8facD2t5oC7cecD4r5oC6hacD4r5oC6hacD4r5oC6hacD4yxo
    @America/Santo_Domingo -16776,-16800,-18000,-14400,-16200 -
    Bs6knr.10Cdjik0.oDaij8kC3qecEtyxoC3n36E7lcuC2on6E8rkuC2j36E8pcuC2lb6E8n4uC2mf6D8m0uC856hoD12w0
    @America/Sao_Paulo -11188,-10800,-7200 -
    Bzp3h6.sC5k4y5.wB5kk0C5ploB5jycC57whoB4740C72g0B3qecC7j5oB3ricC7j5oB2rycC3c01oB40ecCaddoB1tic
    C7k9oB2rycC7k9oB3pacC7k9oB3qecC5j89oB43qcC6wxoB3gecC7t5oB38mcC7s1oB38mcC7ztoB3o6cC7s1oB3o6cC7k9o
    B3gecC7ztoB30ucC7ztoB3vycC7choB3vycC7choB3o6cC7choB43qcC75toB4i6cC6wxoB43qcC6wxoB4jacC6wxoB43qc
    C7choB3vycC7ztoB38mcC7k9oB3o6cC821oB3e6cC7choB3vycC7ztoB3gecC74poB3vycC7k9oB3o6cC7k9oB3vycC7cho
    B3vycC7choB43qcC7choB3o6cC7k9oB3o6cC7k9oB3vycC7choB3vycC7choB3vycC7choB3vycC7ztoB38mc
    @America/Scoresbysund -5272,-7200,-3600,0 C3.5.0/-60,B10.5.0/0
    B10i2qf.1gCjxzw8.8B5eg0D5m4oC5m6cD5m80C5m80D5m80C5m80D5m80C5u00D5m80C5m80D5m80C5m80D5m80C5m80
    D5m80C5m80D5m80C5m80D5m80C5u00D5m80C5m80D5m80C5m80D5m80C5m80D5m80C5m80D5m80C5m80D5u00C6hc0D4r40
    C6hc0D4r40C6hc0D4r40C6p40D4jc0C6p40D4jc0C6p40D4r40C6hc0D4r40C6hc0D4r40C6p40D4jc0C6p40D4jc0C6p40
    D4jc0C6p40D4r40C6hc0D4r40C6hc0D4r40C6p40D4jc0C6p40D4jc0C6p40D4r40C6hc0D4r40C6hc0D4r40C6hc0D4r40
    C6p40D4jc0C6p40D4jc0C6p40D4r40C6hc0D4r40C6hc0D4r40C6p40D4jc0C6p40D4jc0C6p40Bb8g0
    @America/Sitka 53927,-32473,-28800,-25200,-32400 C3.2.0/120,E11.1.0/120
    Bl89cv.dCaa6i6Dczilm.1bC150mcD7dqpoC5m6cD5m9oC5m6cD5m9oC5tycD5m9oC5m6cD5m9oC5m6cD25toC92mcD3o9o
    C7k6cD5m9oC5tycD5ehoC5tycD5m9oC5m6cD5m9oC5m6cD5m9oC5m6cD5m9oC5m6cD5m9oC5tycD5ehoE5tycC5mbcE5m6c
    C5m9oE5m6cC5m9oE5m6cC4yxoE69icC4yxoE6hacC4r5oE6hacC4r5oE6hacC4yxoE69icC4yxoE69icC4yxoE6hacC4r5o
    E6hacC4r5oE6hacC4yxoE69icC4yxoE69icC4yxoE69icC4yxoE6hacC4r5oE6hacC4r5oE6hacC4yxoE69icC4yxoE69ic
    C4yxoE6hacC4r5oE6hacC4r5oE6hacC43to
    @America/St_Johns -12652,-9052,-12600,-9000,-5400 D3.2.0/120,C11.1.0/120
    B10px56.1gA4zycB6g9oA61qcB5w4oA31ycB85doA5m6cB5m9oA5m6cB5u1oA5eecB5u1oA5eecB5u1oA5eecB5u1oA5eec
    B5u1oA5m6cB5m9oA5m6cB5u1oA5eecB5u1oA5eecB5u1oA5eecB5u1oA5eecB5u1oA5m6cB5u1oA5eecB5u1oA5eecC4ozc
    D152b.8C5eecD61vcC4jacD6p5oC4jacD6p5oC4jacD6wxoC4bicD6wxoC4jacD6p5oC4jacD6p5oC127loD6wxoC4jac
    D6p5oC4jacD6p5oC4jacD6p5oC4jacD6wxoC4jacD69loC4r2cD6hdoC4r2cD6hdoC4r2cD6hdoC4r2cD6hdoC4r2cD6p5o
    C4r2cD6hdoC4r2cD6hdoC4r2cD6hdoC4r2cD6hdoC5tycD5m9oC5m6cD5m9oC5m6cD5m9oC5m6cD5m9oC5m6cD5m9oC5tyc
    D5ehoC5tycD5m9oC5m6cD5m9oC5m6cD5m9oC5m6cD5m9oC5m6cD5m9oC5tycD5m9oC5m6cD5m9oC5m6cD5m9oC5m6cD5m9o
    C5m6cD5m9oC5tycD5ehoC5tycD5m9oC5m6cD5m9oC5m6cD5m9oC5m6cD5m9oC5m6cD5m9oC5tycD5ehoC5tycD5m9oC5m6c
    D5m9oC5m6cD5m9oC5m6cD4yudC69icE4yxoC6h8oD4r7cC6hacD4r5oC6hacD4yxoC69icD4yxoC69icD4yxoC6hacD4r5o
    C6hacD4r5oC6hacD4yxoC69icD4yxoC69icD4yxoC69icD4yxoC6hacD4r5oC6hacD4r5oC6hacD4yxoC69icD4yxoC69ic
    D4yxoC6hacD4r5oC6hacD4r5oC6hacD43toC7cecD3w1oC7cecD3w1oC7cecD43toC7cecD3w1oC7chn
    @America/Swift_Current -25880,-25200,-21600 -
    Bx35fz.kC3y830.14B61qcC7aj5oB150mcC6hdoB56mcC61toB4r2cC6hdoB4r2cC6hdoB4r2cC2dk1oB5m6cCgupoB5m6c
    C5m9oB4r2cC6p5oB4jacC3bh5o
    @America/Tegucigalpa -20932,-21600,-18000 - B11yspo.1gCkp00b.8B4jacC6p5oB4jacC5ijtoB2u6c
    @America/Thule -16508,-14400,-10800 C3.2.0/120,B11.1.0/120
    B10i2vn.8Cndsic.1gB5m6cC5m9oB5m6cC5u1oB6hacC4r5oB6hacC4r5oB6hacC4yxoB69icC4yxoB69icC4yxoB69ic
    C4yxoB6hacC4r5oB6hacC4r5oB6hacC4yxoB69icC4yxoB69icC4yxoB6hacC4r5oB6hacC4r5oB6hacC43to
    @America/Tijuana -28084,-25200,-28800 B3.2.0/120,C11.1.0/120
    B127aboCmj40B12rloC12pacB489oC5m6cB3b3toC145icBqwxoC8ricBekhoC4i6cB6p90C4r2cB6hdoC4r2cBhps0C4r40
    B6hc0C4r40B6p40C4r40B6hc0C4r40B6hc0C4r40B6hc0C4r40B6hc0C4r40B4vndoC5tycB5ehoC5tycB5m9oC5m6cB5m9o
    C5m6cB5m9oC5m6cB5m9oC5m6cB5m9oC5tycB5ehoC5tycB5m9oC5m6cB5m9oC5m6cB5m9oC5m6cB4yxoC69icB4yxoC6hac
    B4r5oC6hacB4r5oC6hacB4yxoC69icB4yxoC69icB4yxoC6hacB4r5oC6hacB4r5oC6hacB4yxoC69icB4yxoC69icB4yxo
    C69icB4yxoC6hacB4r5oC6hacB4r5oC6hacB4yxoC69icB4yxoC69icB4yxoC6hacB4r5oC6hacB4r5oC6hacB4r5oC6hac
    B4yxoC69icB4yxoC69icB4blo
    @America/Toronto -19052,-18000,-14400 C3.2.0/120,B11.1.0/120
    Btqxkt.wC7afuu.sB61qcC4s5iB6g76C5u50B4j70C74t0B3smcC7ftoB3vycC7choB3vycC74poB4bicC6wxoB4bicC6wxo
    B4bicC6wxoB4jacC6p5oB4r2cC6hdoB4r2cC6hdoB4r2cC6hdoB4r2cC6p5oB4jacC6p5oB4r2cC6hdoB4r2cC6hdoB4r2c
    C6hdoB4r2cC6hdoB4r2cC6hdoB4r2cC6p5oB4jacC6p5oB1p52cC6hdoB4r2cC6hdoB4r2cC6hdoB4r2cC6hdoB6p2cC4r5o
    B6hacC4r5oB4r2cC6hdoB4r2cC6hdoB4r2cC6hdoB4r2cC6hdoB4r2cC6p5oB4r2cC6hdoB5m6cC5m9oB5m6cC5m9oB5m6c
    C5m9oB5tycC5m9oB5m6cC5m9oB5m6cC5m9oB5m6cC5m9oB5m6cC5m9oB5tycC5ehoB5tycC5m9oB5m6cC5m9oB5m6cC5m9o
    B5m6cC5m9oB5m6cC5m9oB5tycC5m9oB5m6cC5m9oB5m6cC5m9oB5m6cC5m9oB5m6cC5m9oB5tycC5ehoB5tycC5m9oB5m6c
    C5m9oB5m6cC5m9oB5m6cC5m9oB5m6cC5m9oB5tycC5ehoB5tycC5m9oB5m6cC5m9oB5m6cC5m9oB5m6cC4yxoB69icC4yxo
    B6hacC4r5oB6hacC4r5oB6hacC4yxoB69icC4yxoB69icC4yxoB6hacC4r5oB6hacC4r5oB6hacC4yxoB69icC4yxoB69ic
    C4yxoB69icC4yxoB6hacC4r5oB6hacC4r5oB6hacC4yxoB69icC4yxoB69icC4yxoB6hacC4r5oB6hacC4r5oB6hacC43to
    @America/Vancouver -29548,-28800,-25200 C3.2.0/120,B11.1.0/120
    Bqax9o.sCaqgaz.wB61qcC7aj5oB150mcC6hdoB4r2cC6hdoB4r2cC6hdoB4r2cC6hdoB4r2cC6p5oB4jacC6p5oB4r2c
    C6hdoB4r2cC6hdoB4r2cC6hdoB4r2cC6hdoB4r2cC6p5oB4r2cC6hdoB4r2cC6hdoB4r2cC6hdoB4r2cC6hdoB4r2cC6p5o
    B4jacC6p5oB5m6cC5m9oB5m6cC5m9oB5m6cC5m9oB5tycC5ehoB5tycC5m9oB5m6cC5m9oB5m6cC5m9oB5m6cC5m9oB5m6c
    C5m9oB5tycC5m9oB5m6cC5m9oB5m6cC5m9oB5m6cC5m9oB5m6cC5m9oB5tycC5ehoB5tycC5m9oB5m6cC5m9oB5m6cC5m9o
    B5m6cC5m9oB5m6cC5m9oB5tycC5ehoB5tycC5m9oB5m6cC5m9oB5m6cC5m9oB5m6cC4yxoB69icC4yxoB6hacC4r5oB6hac
    C4r5oB6hacC4yxoB69icC4yxoB69icC4yxoB6hacC4r5oB6hacC4r5oB6hacC4yxoB69icC4yxoB69icC4yxoB69icC4yxo
    B6hacC4r5oB6hacC4r5oB6hacC4yxoB69icC4yxoB69icC4yxoB6hacC4r5oB6hacC4r5oB6hacC43to
    @America/Whitehorse -32412,-32400,-28800,-25200 -
    Bvifb0.cC5iybb.1cB61qcC6hdoB4xn0C6z450B150mcD64l2cB5u00C3o80D4fntoC5m6cD5m9oC5m6cD5m9oC5tycD5eho
    C5tycD5m9oC5m6cD5m9oC5m6cD5m9oC5m6cD4yxoC69icD4yxoC6hacD4r5oC6hacD4r5oC6hacD4yxoC69icD4yxoC69ic
    D4yxoC6hacD4r5oC6hacD4r5oC6hacD4yxoC69icD4yxoC69icD4yxoC69icD4yxoC6hacD4r5oC6hacD4r5oC6hacD4yxo
    C69icD4yxoC69icD4yxoC6hacD4r5oC6hacD4r5oC6hacD43toC7cecD3w1oC7cecD3w1oC7cecD43toC7cecD3w1oC7cec
    D3w1oC7cecD3w1oC7cecD3w1oC7cecD3w1oC7cecD43toC7cecD3w1oC7cecD3w1oC7cecD3w1oC7cecD3w1o
    @America/Winnipeg -23316,-21600,-18000 C3.2.0/120,B11.1.0/120
    Bresqs.10C90bj7.oB4jacChpx0B61qcC5t4xoB43qcC1dahoB150mcC6wxoB4r2cC61toB4r2cC6hdoB4r2cC6hdoB4r2c
    C6q9oB4oucC6ihoB4r2cC6hdoB4r2cC6hdoB4r2cC6hdoB4r2cC6hdoB4r2cC6p5oB4r2cC6hdoB4r2cC6hdoB4r2cC6hdo
    B5m6cC5m9oB4r2cCt61oB4jacCt61oB5u00C5m80B5m80C5m80B5m80C5m80B5m80C5m80B5m80C5m80B5u00C5m80B5m80
    C5m80B5m80C5m80B5m80C5m80B5m80C5m80B5u00C5eg0B5u00C5m80B5m80C5m80B5m80C5m80B5m80C5m80B5m80C5m80
    B5u00C5eg0B5u00C5m80B5m80C5m80B5m80C5m80B5m80C4yw0B69k0C4yw0B6hc0C4r40B6hc0C4r40B6hc0C4yw0B69k0
    C4yw0B69k0C4yw0B6hc0C4r40B6hc0C4r40B6hc0C4yw0B69k0C4yw0B69k0C4yw0B69k0C4yw0B6hc0C4r40B6hc0C4r40
    B6hc0C4yw0B69k0C4yw0B69k0C4yw0B6hc0C4r40B6hc0C4r40B6hacC43to
    @America/Yakutat 52865,-33535,-32400,-28800 D3.2.0/120,C11.1.0/120
    Bl89cv.dCaa6in.16Dczimt.5C150mcD7dqpoC5m6cD5m9oC5m6cD5m9oC5tycD5m9oC5m6cD5m9oC5m6cD25toC92mc
    D3o9oC7k6cD5m9oC5tycD5ehoC5tycD5m9oC5m6cD5m9oC5m6cD5m9oC5m6cD5m9oC5m6cD5m9oC5tycD5ehoC5tycD5m9o
    C5m6cD5m9oC5m6cD5m9oC5m6cD4yxoC69icD4yxoC6hacD4r5oC6hacD4r5oC6hacD4yxoC69icD4yxoC69icD4yxoC6hac
    D4r5oC6hacD4r5oC6hacD4yxoC69icD4yxoC69icD4yxoC69icD4yxoC6hacD4r5oC6hacD4r5oC6hacD4yxoC69icD4yxo
    C69icD4yxoC6hacD4r5oC6hacD4r5oC6hacD43to"

/-- Zones of Antarctica. -/
def antarctica : String :=
  "@Antarctica/Casey 0,28800,39600 -
    B1gx4g0Ccrva0B4970Cil10B3lycC1glacBfl5oC6hh0B4ypcC67h0B4t70C6hc1B4yqzC69p1B4yqzC69p1B4vjz
    @Antarctica/Davis 0,25200,18000 - B1d67s0A2fx8cB1bxvoCcqwvoB4g1oCie6cB3m1o
    @Antarctica/Macquarie 0,36000,39600 C10.1.0/120,B4.1.0/180
    Bv9eg0C5ao2oB5eg0AmqsoB92qooC640qoB5m80C6hc0B43s0C74o0B43s0C74o0B4bk0C74o0B3o80C7k80B3w00C7cg0
    B3w00C7cg0B3w00C7cg0B43s0C7cg0B3w00C7cg0B3w00C7cg0B3w00C7cg0B3w00C7cg0B3w00C7cg0B4r40C6p40B4jc0
    C6p40B3w00C7cg0B3w00C7cg0B3w00C74o0B4jc0C6ww0B4jc0C6ww0B4bk0C6ww0B4bk0C6ww0B4r40C5u00B5eg0C5u00
    B5eg0C5u00B5eg0C5u00B5eg0C5u00B5m80C5u00B5eg0C5u00B5eg0C5u00B5eg0C5u00B5eg0C4r40B6hc0C61s0B5eg0
    C5u00B5eg0C5u00B5eg0C5u00B5eg0C5u00B5m80C5m80B5eg0C61s0B5m80C5m80B5m80C5m80Bguo0
    @Antarctica/Mawson 0,21600,18000 - B1c9cg0Chfndc
    @Antarctica/Palmer 0,-10800,-14400,-7200 -
    B1fo140C1tp0B71doC486cB71doC57qcB5m9oC5tycB5m9oC5m6cB5m9oD1chicB30ucC2i6poB501oC4r2cB6hdoC4r2c
    B6p5oC4jacB6p5oC4jacB6p5oC5m6cB5m9oC4r2cB6hdoC4r2cB6p5oC4jacB5u1oC5eecB6p5oC4r2cB6hdoC4r2cB6hdo
    C4r2cB6hdoC4r2cB6p5oC4jacB6p5oC56mcB61toC4r2cB61toC5tycB5u1oC4r2cB6p5oC4jacB6p5oC4jacB6p5oC4jac
    B6p5oC4r2cB6hdoC4r2cB6hdoC4r2cB6p5oC4jacB6p5oC56mcB61toC4r2cB6hdoC5eecB5u1oC6hacB38poC7rycB3w1o
    C7cecB43toC74mcB43toCj0ecB2t5o
    @Antarctica/Rothera 0,-10800 - B1jeco0
    @Antarctica/Troll 0,7200 B3.5.0/60,A10.5.0/180 B1s9kxo
    @Antarctica/Vostok 0,25200,18000 - B1dgm80Abb9wcB8fnoC94cvo"

/-- Zones of Asia. -/
def asia : String :=
  "@Asia/Almaty 18468,18000,21600,25200 -
    B12xkfg.cC1x607.1cDfwfqcC5nacD5m9oC5nacD5m9oC5nacD5ndoC5mbcD5m80C5m80D5m80C5m80D5m80C5m80D5m80
    C5m80D5m80C5m80D5m80C5u00Bb8hoC3gg0D25qcC5m80D5m80C5m80D5m80C5m80D5m80C5m80D5u00C6hc0D4r40C6hc0
    D4r40C6hc0D4r40C6p40D4jc0C6p40D4jc0C6p40D4r40C6hc0D4r40C6hc0D4r40C6p40B61xgo
    @Asia/Amman 8624,7200,10800 -
    B150q40.gCdaawn.18B3lycC6jloB4pycC6jloB4pycC6kpoB5oecC5l5oB4pycC6ihoB4pycC21axoB5nacC5ploB5m6c
    C5m9oB5m6cC5m9oB5tycC6kpoB4nqcC69loB4yucC5zloB512cC61toB5eecC5m9oB5m6cC5m9oB56mcC69loB4yw0C69k0
    B56o0C61s0B56o0C61s0B56o0C8ts0B2mg0C5sw0B5nc0C5l40B5nc0C5m80B5m80C5m80B6hc0C4r40B69k0C56o0B5m80
    C5m80B6hc0C4r40B6hc0C4r40B6p40C4jc0B6p40C4jc0B6p40C4r40B6hc0C4r40BjfycC30xoB6p40C4jc0B6p40C4r40
    B6hc0C4r40B6hc0C4r40B6hc0C4r40B6hc0C4r40B6p40C4jc0B6p40C3o80
    @Asia/Anadyr 42596,43200,46800,50400,39600 -
    B12xk4a.4C1x5zp.1kDfwfqcC5nacBb9loC5m9oB5nacC5ndoB5mbcC5m80B5m80C5m80B5m80C5m80B5m80C5m80B5m80
    C5m80B5m80C5m80B5u00Eb8hoB3gg0C25qcB5m80C5m80B5m80C5m80B5m80C5m80B5m80C5u00B6hc0C4r40B6hc0C4r40
    B6hc0C4r40B6p40C4jc0B6p40C4jc0B6p40C4r40B6hc0C4r40B6hc0C4r40B6p40C4jc0B6p40C4jc0B6p40C4jc0B6p40
    C4r40B6hc0C4r40B6hc0Ebg9oB4jc0
    @Asia/Aqtau 12064,14400,18000,21600 -
    B12xkie.1kC1x5yx.4Dg232cCb9icD5m9oC5nacD5ndoC5mbcD5m80C5m80D5m80C5m80D5m80C5m80D5m80C5m80D5m80
    C5m80D5m80C5u00Bb8hoC3gg0D25qcC5m80D5m80C5m80D5m80B5m80C5m9oB5m80C5u00B6hc0C4r40B6hc0C4r40B6hc0
    C4r40B6p40C4jc0B6p40C4jc0B6p40C4r40B6hc0C4r40B6hc0C4r40
    @Asia/Aqtobe 13720,14400,18000,21600 -
    B12xkhn.kC1x5zo.14DfwfqcCgwucD5m9oC5nacD5ndoC5mbcD5m80C5m80D5m80C5m80D5m80C5m80D5m80C5m80D5m80
    C5m80D5m80C5u00Bb8hoC3gg0D25qcC5m80D5m80C5m80D5m80C5m80D5m80C5m80D5u00C6hc0D4r40C6hc0D4r40C6hc0
    D4r40C6p40D4jc0C6p40D4jc0C6p40D4r40C6hc0D4r40C6hc0D4r40C6p40
    @Asia/Ashgabat 14012,14400,18000,21600 -
    B12xkhi.sC1x5zt.wDfwfqcC5nacD5m9oC5nacD5m9oC5nacD5ndoC5mbcD5m80C5m80D5m80C5m80D5m80C5m80D5m80
    C5m80D5m80C5m80D5m80C5u00Bb8hoC3gg0
    @Asia/Atyrau 12464,10800,18000,21600,14400 -
    B12xki8.gC1x60r.18Dg230oCb9icD5m9oC5nacD5ndoC5mbcD5m80C5m80D5m80C5m80D5m80C5m80D5m80C5m80D5m80
    C5m80D5m80C5u00Eb8hoC3gg0D25qcC5m80D5m80C5m80D5m80C5m80D5m80C5m80D5u00C6hc0D4r40C6hc0D4r40C6hc0
    Ebg9oC4jc0E6p40C4jc0E6p40C4r40E6hc0C4r40E6hc0C4r40
    @Asia/Baghdad 10660,10656,10800,14400 -
    Bs6kb2.kC8rm80.4Dk56nx.10C4pycD5l5oC5oecD5ndoC5nacD5m9oC5l5oD5m80C5m80D5m80C5m80D5m80C5m80D5m80
    C5m80D5m80C5u00D5nfcC5nc0D5nc0C5nc0D5m80C5nc0D5m80C5nc0D5m80C5nc0D5nc0C5nc0D5m80C5nc0D5m80C5nc0
    D5m80C5nc0D5nc0C5nc0D5m80C5nc0D5m80C5nc0D5m80C5nc0D5nc0C5nc0D5m80C5nc0D5m80C5nc0D5m80C5nc0
    @Asia/Baku 11964,10800,14400,18000 -
    B12xkig.10Caa3cj.oD7jiecC5nacD5m9oC5nacD5m9oC5nacD5ndoC5mbcD5m80C5m80D5m80C5m80D5m80C5m80D5m80
    C5m80D5m80C5m80D5m80C5u00Bb8hoC5m80D195ncC6hc0D4r2cC6hc0D4r40C6hc0D4r40C6p40D4jc0C6p40D4jc0C6p40
    D4r40C6hc0D4r40C6hc0D4r40C6p40D4jc0C6p40D4jc0C6p40D4jc0C6p40D4r40C6hc0D4r40C6hc0D4r40C6p40D4jc0
    C6p40D4jc0C6p40D4r40C6hc0D4r40C6hc0D4r40C6hc0
    @Asia/Bangkok 24124,25200 - B11nikt.1k
    @Asia/Barnaul 20100,21600,25200,28800 -
    B11k12pC3apbbDfwfqcC5nacD5m9oC5nacD5m9oC5nacD5ndoC5mbcD5m80C5m80D5m80C5m80D5m80C5m80D5m80C5m80
    D5m80C5m80D5m80C5u00Bb8hoC3gg0D25qcC5m80D5m80C5m80D5m80C5m80D5m80C1xv0B3oeoC5u00B6hc0C4r40B6hc0
    C4r40B6hc0C4r40B6p40C4jc0B6p40C4jc0B6p40C4r40B6hc0C4r40B6hc0C4r40B6p40C4jc0B6p40C4jc0B6p40C4jc0
    B6p40C4r40B6hc0C4r40B6hc0C4r40B6p40C4jc0B14eecCfzlo
    @Asia/Beirut 8520,7200,10800 C3.5.0/0,B10.5.0/0
    Bp1tg2CclkwmB6iecC4xtoB5nacC5ddoB61qcC61toB4jacCaj1loB4pycC6jloB4pycC6jloB4pycC6kpoB4pycC6jlo
    B4pycC3cw9oB346cC6jloB4pycC6jloB4pycC6jloB4pycC6kpoB4pycC6jloB4pycC6ihoB4pycC1qypoB56mcC62xo
    B56mcC62xoB56mcC62xoB56mcC72hoB486cC6cxoB4wmcC62xoB56mcC62xoB56mcC641oB4tacC5ehoB5m6cC5m9oB5m6c
    C5m9oB5m6cC5u1oB5m6cC5m9oB5m6cC5m9oB5m6cC5m9o
    @Asia/Bishkek 17904,18000,21600,25200 -
    B12xkfp.10C1x5zy.oDfwfqcC5nacD5m9oC5nacD5m9oC5nacD5ndoC5mbcD5m80C5m80D5m80C5m80D5m80C5m80D5m80
    C5m80D5m80C5m80D5m80C5u00Bac80C6xycB56mcC61toB56mcC61toB56mcC61toB56mcC61toB5eecC5mduB6hacC4r5o
    B6hacC4r5oB6p2cC4jdoB6p2cC4jdoB6p2cC4r5oB6hacC4r5oB6hacC4r5oB6p2cC4jdo
    @Asia/Chita 27232,28800,32400,36000 -
    B11k6je.8C3ajr9.1gDfwfqcC5nacD5m9oC5nacD5m9oC5nacD5ndoC5mbcD5m80C5m80D5m80C5m80D5m80C5m80D5m80
    C5m80D5m80C5m80D5m80C5u00Bb8hoC3gg0D25qcC5m80D5m80C5m80D5m80C5m80D5m80C5m80D5u00C6hc0D4r40C6hc0
    D4r40C6hc0D4r40C6p40D4jc0C6p40D4jc0C6p40D4r40C6hc0D4r40C6hc0D4r40C6p40D4jc0C6p40D4jc0C6p40D4jc0
    C6p40D4r40C6hc0D4r40C6hc0D4r40C6p40D4jc0B14eecCfznc
    @Asia/Colombo 19164,19172,19800,21600,23400 - Bp1tb4.10C8533z.1gDb9yfp.wE7dj6Cz7uiEfuhqcD4r36C2yq8u
    @Asia/Damascus 8712,7200,10800 -
    B11kpny.1cC3c41.cB56mcC61toB56mcC61toB56mcC61toB5eecCc2oxoB4s6cC6jloB4oucC6ltoB4pycC6jloB4ouc
    C6cxoB4xqcC6jloB4pycC6kpoB4pycC6jloB4pycC6jloB4pycC6jloB4pycC6kpoB4pycC6jloB4pycC6jloB4pycC6jlo
    B4pycC6kpoB4pycC6jloB3smcC7gxoB3smcC1fvtoB5eecC5w9oB5eecCfixoB792cC4exoB7j2cC475oB73icC4ntoB5oec
    C5m9oB5m6cC5nacB5nacC5v5oB5ficC5floB5nacC5sxoB5nacC5m9oB5nacC5ndoB5nacC5l5oB5oecC5k1oB5picC5m9o
    B5nacC5ndoB5nacC5m9oB5nacC5m9oB5nacC5m9oB5nacC5ndoB5nacC5m9oB5nacC5m9oB5dacC5u1oB6p2cC4r5oB6iec
    C4i9oB6p2cC4r5oB6hacC4r5oB6hacC4r5oB6hacC4r5oB6hacC4r5oB6p2cC4jdoB6p2cC4jdoB6p2cC4r5oB6hacC4r5o
    B6hacC4r5oB6hacC4r5oB6p2cC4jdoB6p2cC4jdo
    @Asia/Dhaka 21700,21200,23400,19800,21600,25200 - Bs6k5y.kCg7c08.kD6z2z.kC3d5oE2ucecFi2pj6E60o0
    @Asia/Dili 30140,28800,32400 - Bz2iqoC9ftacBapgo0C7ms9o
    @Asia/Dubai 13272,14400 - B11kplu.1c
    @Asia/Dushanbe 16512,18000,21600,25200 -
    B12xkgc.1cC1x5zb.cDfwfqcC5nacD5m9oC5nacD5m9oC5nacD5ndoC5mbcD5m80C5m80D5m80C5m80D5m80C5m80D5m80
    C5m80D5m80C5m80D5m80C5u00Bam9o
    @Asia/Famagusta 8148,7200,10800 C3.5.0/180,B10.5.0/240
    B125sk8.cCgq3kf.1cB5m6cC6o1oB4licC5ddoB5eecC5u1oB5nacC5l5oB5m6cC5u1oB5eecC5m9oB5m6cC5m9oB5m6c
    C5m9oB5m6cC5m9oB5tycC5m9oB5m6cC5m9oB5m6cC5m9oB5m6cC5m9oB5m6cC5m9oB5m6cC5m9oB5tycC5m9oB5m6cC5m9o
    B5m6cC5m9oB5m6cC5m9oB5m6cC5m9oB5m6cC5u1oB5m6cC5m9oB5m6cC5m9oB6hh0C4r40B6p40C4jc0B6p40C4jc0B6p40
    C4r40B6hc0C4r40B6hc0C4r40B6p40C4jc0B6p40C4jc0B6p40C4jc0B6p40C4r40B6hc0C4r40B6hc0C4r40B6p40C4jc0
    B6p40C4jc0B6p40C4r40B6hc0C4r40B6hc0C4r40B6hc0C4r40Bhxk0
    @Asia/Gaza 8272,7200,10800 C3.4.4/3000,B10.4.4/3000
    Bvjpg6.8Ccf5vt.1gB3rk0C1g80Bm1c0C4ns0B6ls0C4ow0B6ls0C54g0B6540C54g0B6540C3alwoB4fycC6jloB4pyc
    C6jncB4oxoC6lqcB4oxoC6kmcB4oxoC6kmcB4oxoC6kmcB4oxoC6lqcB4oxoC6kmcB4oxoC6kmcB4q1oC6jicB12soC27wpo
    B30ucC5u1oB43qcC1jixoB1ao0C151s0B3gg0C74o0B4bicC7ztoB3gecC6shoB4nqcC6hdoB4jacC7choB3vycC69lo
    B4r2cC6hdoB4yucC6hdoB4yucC6f5oB4tacC6f5oB4licC6mxoB4tacC6mxoB56o0C61s0B56o0C61s0B56o0C6hc0B5m6c
    C5u1oB5m6cC5m9oB5m6cC5m9oB5m6cC5m9oB5m6cC5m9oB56o0C61s0B5b5oC5iucB5dacC5w9oB53doC62ucB4r2cC6hdo
    B4yw0C6ao1B486bC76xpB3ribC7gxoB5eg0C5u00B5m6cC5m9oB6hacC4s9oB6g80C4s9oB6p2cC4jdoB6p2cC4jdoB6p2c
    C4q00B6iecC4r5oB6hc0C4r40B6o00C4lk0B6o1oC5m9oB5m6cC5ehoB5tycC56poB61qcC4r5oB6hacC4r5oB6p2cC4jdo
    B6p2cC4jdoB6p2cC4r5oB6hacC4r5oB6hacC4r5oB6p2cC4jdoB6p2cC4jdoB6p2cC4jdoB6p2cC4r5oB69icC4yxoB61qc
    C56poB5m6cC5m9oB5eecC5u1oB4yucC1ihoB7qcC4r5oB4jacC1apoBnacC4r5oB4bicC1apoBv2cC4r5oB3vycC1iho
    B12ucC4r5oB3o6cC1apoB1q6cC4jdoB3gecC1apoB1xycC4jdoB30ucC1ihoB25qcC4r5oB2lacC1apoB2lacC4r5oB25qc
    C1ihoB2t2cC4r5oB1xycC1apoB3gecC4jdoB1q6cC1apoB3o6cC4jdoB1amcC1ihoB3vycC4r5oBv2cC1apoB4bicC4r5o
    BficC1ihoB4jacC4r5oB7qcC1ihoB4r2cC61toB5eecC5m9oB5m6cC56poB61qcC4yxoB69icC4r5oB6hacC4r5oB6p2c
    C4jdoB6p2cC4jdoB6p2cC4jdoB6p2cC4r5oB6hacC4r5oB6hacC4r5oB6p2cC4jdoB6p2cC4jdoB6hacC4yxoB61qcC56po
    B5tycC5ehoB5eecC5u1oB56mcC1apoB7qcC4jdoB4yucC1apoBficC4jdoB4jacC1ihoBnacC4r5oB43qcC1apoB12uc
    C4r5oB3o6cC1ihoB1amcC4r5oB3gecC1ihoB1q6cC4jdoB38mcC1apoB25qcC4jdoB2t2cC1ihoB2dicC4r5oB2dicC1apo
    B2t2cC4r5oB25qcC1apoB30ucC4r5oB1q6cC1ihoB38mcC4r5oB1iecC1apoB3vycC4jdoB12ucC1ihoB43qcC4jdoBv2c
    C1ihoB4bicC4r5oBficC1apoB4r2c
    @Asia/Hebron 8423,7200,10800 C3.4.4/3000,B10.4.4/3000
    Bvjpg3.11Ccf5vw.nB3rk0C1g80Bm1c0C4ns0B6ls0C4ow0B6ls0C54g0B6540C54g0B6540C3alwoB4fycC6jloB4pyc
    C6jncB4oxoC6lqcB4oxoC6kmcB4oxoC6kmcB4oxoC6kmcB4oxoC6lqcB4oxoC6kmcB4oxoC6kmcB4q1oC6jicB12soC27wpo
    B30ucC5u1oB43qcC1jixoB1ao0C151s0B3gg0C74o0B4bicC7ztoB3gecC6shoB4nqcC6hdoB4jacC7choB3vycC69lo
    B4r2cC6hdoB4yucC6hdoB4yucC6f5oB4tacC6f5oB4licC6mxoB4tacC6mxoB56o0C61s0B56o0C61s0B56o0C6hc0B5m6c
    C5u1oB5m6cC5m9oB5m6cC5m9oB5m6cC5m9oB5m6cC5m9oB56o0C61s0B5b5oC5iucB5dacC5w9oB53doC62ucB4uecC6e1o
    B4yw0C69k0B49acC76xpB3ribCw9oByecC5m9oB5eg0C5u00B5m6cC5m9oB6hacC4s9oB6g80C4s9oB6p2cC4jdoB6p2c
    C4jdoB6p2cC4q00B6iecC4r5oB6hc0C4r40B6o00C4lk0B6o1oC5m9oB5m6cC5ehoB5tycC56poB61qcC4r5oB6hacC4r5o
    B6p2cC4jdoB6p2cC4jdoB6p2cC4r5oB6hacC4r5oB6hacC4r5oB6p2cC4jdoB6p2cC4jdoB6p2cC4jdoB6p2cC4r5oB69ic
    C4yxoB61qcC56poB5m6cC5m9oB5eecC5u1oB4yucC1ihoB7qcC4r5oB4jacC1apoBnacC4r5oB4bicC1apoBv2cC4r5o
    B3vycC1ihoB12ucC4r5oB3o6cC1apoB1q6cC4jdoB3gecC1apoB1xycC4jdoB30ucC1ihoB25qcC4r5oB2lacC1apoB2lac
    C4r5oB25qcC1ihoB2t2cC4r5oB1xycC1apoB3gecC4jdoB1q6cC1apoB3o6cC4jdoB1amcC1ihoB3vycC4r5oBv2cC1apo
    B4bicC4r5oBficC1ihoB4jacC4r5oB7qcC1ihoB4r2cC61toB5eecC5m9oB5m6cC56poB61qcC4yxoB69icC4r5oB6hac
    C4r5oB6p2cC4jdoB6p2cC4jdoB6p2cC4jdoB6p2cC4r5oB6hacC4r5oB6hacC4r5oB6p2cC4jdoB6p2cC4jdoB6hacC4yxo
    B61qcC56poB5tycC5ehoB5eecC5u1oB56mcC1apoB7qcC4jdoB4yucC1apoBficC4jdoB4jacC1ihoBnacC4r5oB43qc
    C1apoB12ucC4r5oB3o6cC1ihoB1amcC4r5oB3gecC1ihoB1q6cC4jdoB38mcC1apoB25qcC4jdoB2t2cC1ihoB2dicC4r5o
    B2dicC1apoB2t2cC4r5oB25qcC1apoB30ucC4r5oB1q6cC1ihoB38mcC4r5oB1iecC1apoB3vycC4jdoB12ucC1ihoB43qc
    C4jdoBv2cC1ihoB4bicC4r5oBficC1apoB4r2c
    @Asia/Ho_Chi_Minh 25590,25200,28800,32400 - Byuyk5.uC9x1ai.uDotacB5a00Chs3cB2kzs0C1erqcB4u4w0
    @Asia/Hong_Kong 27402,28800,32400,30600 -
    BwtoscCbgvfcD3c00C2ma6B17yaiC4r2cB6x1uC43s0B74o0C4r40B5m80C4r40B6hc0C4r40B6hc0C4r40B6hc0C4yw0
    B6hc0C4r40B6hacC4bloB6wucC4bloB74mcC43toB74mcC4bloB6wucC4bloB6wucC4bloB6wucC4bloB74mcC43toB74mc
    C43toB74mcC4bloB6wucC4bloB6wucC56poB5m6cC5m9oB5m6cC5m9oB5tycC5m9oB5m6cC5m9oB5m6cC5m9oB5m6cC5m9o
    B5m6cC5m9oB5tycC5m9oB5m6cC25toB92mcC5m9oB5m6cC5m9oB5m6cCsy9oB4yuc
    @Asia/Hovd 21996,21600,25200,28800 -
    Bx26dt.oCmoe06.10D1n4ucC5nacD5ndoC5m6cD5m9oC5m6cD5m9oC5m6cD5m9oC5m6cD5m9oC5m6cD5m9oC5m6cD5m9o
    C5tycD5m9oC5m6cD5m9oC5m6cD5m9oC5m6cD5m9oC5m6cD5m9oC5m6cD5u1oC5m6cD5m9oC5m6cD5m9oC5m6cDt510C4r2c
    D5m9oC5m6cD5m9oC5m6cD5m9oC5m6cD5m9oC5m6cD5m9oC5tycD2nploC5m30D5md0C5m30
    @Asia/Irkutsk 25025,25200,28800,32400 -
    B11lg4e.1jC39a7x.5DfwfqcC5nacD5m9oC5nacD5m9oC5nacD5ndoC5mbcD5m80C5m80D5m80C5m80D5m80C5m80D5m80
    C5m80D5m80C5m80D5m80C5u00Bb8hoC3gg0D25qcC5m80D5m80C5m80D5m80C5m80D5m80C5m80D5u00C6hc0D4r40C6hc0
    D4r40C6hc0D4r40C6p40D4jc0C6p40D4jc0C6p40D4r40C6hc0D4r40C6hc0D4r40C6p40D4jc0C6p40D4jc0C6p40D4jc0
    C6p40D4r40C6hc0D4r40C6hc0D4r40C6p40D4jc0C14eec
    @Asia/Jakarta 25632,26400,27000,32400,28800,25200 - B12tsrsC2rlk0D2xtzqC13i5iEtcqiCmj36F4a3su
    @Asia/Jayapura 33768,32400,34200 - B15le8d.cC3pe8m.1cB61xj6
    @Asia/Jerusalem 8454,8440,7200,10800,14400 D3.4.4/1560,C10.5.0/120
    Bp1tg3.6Cbwd40.eD70orw.14C3rk0D1g80Cm1c0D4ns0C6ls0D4ow0C6ls0D54g0C6540D54g0C6540Ehk80D3480C1vs0
    D5l40C5og0D54g0C4ow0D6400C6ww0D4yw0C5m80D5eg0C4r40D8fc0C2t40D8fc0C2t40D87k0C3o80D6hc0C4jc0D5998o
    C30ucD5u1oC43qcD1jixoC1ao0D151s0C3gg0D74o0C4bicD7ztoC3gecD6shoC4nqcD6hdoC4jacD7choC3vycD69lo
    C4r2cD6hdoC4yucD6hdoC4yucD6f5oC4tacD6f5oC4licD6mxoC4tacD5zloC5picD5qpoC5gmcD5rtoC58ucD6f90C4r2c
    D6wxoC5ecoD5ploC56mcD5qpoC5xacD5b5oC5tycD5rtoC56mcD5wbcC5w6cD5c9oC5oecD5k1oC58ucD5zloC5w6cD5c9o
    C5oecD5k1oC58ucD67doC5oecD5k1oC5gmcD5rto
    @Asia/Kabul 16608,14400,16200 - Bs6k8b.cCh8010.1c
    @Asia/Kamchatka 38076,39600,43200,46800 -
    B12gxad.oC2dsva.10DfwfqcC5nacD5m9oC5nacD5m9oC5nacD5ndoC5mbcD5m80C5m80D5m80C5m80D5m80C5m80D5m80
    C5m80D5m80C5m80D5m80C5u00Bb8hoC3gg0D25qcC5m80D5m80C5m80D5m80C5m80D5m80C5m80D5u00C6hc0D4r40C6hc0
    D4r40C6hc0D4r40C6p40D4jc0C6p40D4jc0C6p40D4r40C6hc0D4r40C6hc0D4r40C6p40D4jc0C6p40D4jc0C6p40D4jc0
    C6p40D4r40C6hc0D4r40C6hc0Bbg9oC4jc0
    @Asia/Karachi 16092,19800,23400,18000,21600 - Bxi60j.1cCb62ea.cBz6mcD1v5toEfti8uD5m6cE1rqhoD4pycE53doD666c
    @Asia/Kathmandu 20476,19800,20700 - B11kpii.18Cko1kb.g
    @Asia/Khandyga 32533,28800,32400,36000,39600 -
    B11k6gx.1bC3ajtq.dDfwfqcC5nacD5m9oC5nacD5m9oC5nacD5ndoC5mbcD5m80C5m80D5m80C5m80D5m80C5m80D5m80
    C5m80D5m80C5m80D5m80C5u00Bb8hoC3gg0D25qcC5m80D5m80C5m80D5m80C5m80D5m80C5m80D5u00C6hc0D4r40C6hc0
    D4r40C6hc0D4r40C6p40D4jc0C6p40D4jc0C6p40D4r40C6hc0D4r40C6hc0D22coE2opoD6p40E4jc0D6p40E4jc0D6p40
    E4jc0D6p40E4r40D6hc0E4r40D6hc0E4r40D6p40E4jc0D58r0Cz5p0
    @Asia/Kolkata 21208,21200,19270,19800,23400 - Bh27y6.wC4uvk0.8Db9sww.aEb6zrr.aD6z2cE3d5oDz6mc
    @Asia/Krasnoyarsk 22286,21600,25200,28800 -
    B11kv1o.yC39vcb.qDfwfqcC5nacD5m9oC5nacD5m9oC5nacD5ndoC5mbcD5m80C5m80D5m80C5m80D5m80C5m80D5m80
    C5m80D5m80C5m80D5m80C5u00Bb8hoC3gg0D25qcC5m80D5m80C5m80D5m80C5m80D5m80C5m80D5u00C6hc0D4r40C6hc0
    D4r40C6hc0D4r40C6p40D4jc0C6p40D4jc0C6p40D4r40C6hc0D4r40C6hc0D4r40C6p40D4jc0C6p40D4jc0C6p40D4jc0
    C6p40D4r40C6hc0D4r40C6hc0D4r40C6p40D4jc0C14eec
    @Asia/Kuching 26480,27000,28800,30000,32400 -
    B13i6jq.14C253jr.kDufj6C2t3gD8hkkC2t3gD8ggkC2t3gD8ggkC2t3gD8ggkC2t3gD8hkkC2t3gD8ggkC2t3gE1z4k C148uc
    @Asia/Macau 27250,28800,32400,36000 -
    Bwtord.1eCbmqdm.aD40ecC67acD529oC4pycBmkbcC6jk0B4q00C67c0B6y00C4r40B5m80C4q00B6hc0C4r40B6hc0
    C4r40B6ig0C4xs0B6hc0C4r40B6hc0C4bk0B6ww0C4bk0B74o0C43s0B74tuC4bloB6wucC4bloB6wucC4bloB6wucC4blo
    B74mcC43toB74mcC43toB74mcC4bloB6wucC4bloB6wucC56poB5m4oC5mbcB5m4oC5mbcB5tycC5m9oB5m6cC5m9oB5m6c
    C5m9oB5m6cC5m9oB5m6cC5m9oB5tycC5m9oB5m6cC25toB92mcC5m9oB5m6cC5m9oB5m6cCsy9oB4yuc
    @Asia/Magadan 36192,36000,39600,43200 -
    B12xk78.1cC1x603.cDfwfqcC5nacD5m9oC5nacD5m9oC5nacD5ndoC5mbcD5m80C5m80D5m80C5m80D5m80C5m80D5m80
    C5m80D5m80C5m80D5m80C5u00Bb8hoC3gg0D25qcC5m80D5m80C5m80D5m80C5m80D5m80C5m80D5u00C6hc0D4r40C6hc0
    D4r40C6hc0D4r40C6p40D4jc0C6p40D4jc0C6p40D4r40C6hc0D4r40C6hc0D4r40C6p40D4jc0C6p40D4jc0C6p40D4jc0
    C6p40D4r40C6hc0D4r40C6hc0D4r40C6p40D4jc0B14eecCgurc
    @Asia/Makassar 28656,28800,32400 - B15leaq.oC2wjbx.10B14suc
    @Asia/Manila -57368,29032,28800,32400 -
    Be39uk.8Ch4ek3.1gDbmt80C2cecD1jehoC18mmcD2m9doC1nycD755toC5hqcD3yptoC24mc
    @Asia/Nicosia 8008,7200,10800 C3.5.0/180,B10.5.0/240
    B125ska.wCgq3kd.sB5m6cC6o1oB4licC5ddoB5eecC5u1oB5nacC5l5oB5m6cC5u1oB5eecC5m9oB5m6cC5m9oB5m6c
    C5m9oB5m6cC5m9oB5tycC5m9oB5m6cC5m9oB5m6cC5m9oB5m6cC5m9oB5m6cC5m9oB5m6cC5m9oB5tycC5m9oB5m6cC5m9o
    B5m6cC5m9oB5m6cC5m9oB5m6cC5m9oB5m6cC5u1oB5m6cC5m9oB5m6cC5m9oB6hh0
    @Asia/Novokuznetsk 20928,21600,25200,28800 -
    B12xjab.cC1x73o.1cDfwfqcC5nacD5m9oC5nacD5m9oC5nacD5ndoC5mbcD5m80C5m80D5m80C5m80D5m80C5m80D5m80
    C5m80D5m80C5m80D5m80C5u00Bb8hoC3gg0D25qcC5m80D5m80C5m80D5m80C5m80D5m80C5m80D5u00C6hc0D4r40C6hc0
    D4r40C6hc0D4r40C6p40D4jc0C6p40D4jc0C6p40D4r40C6hc0D4r40C6hc0D4r40C6p40D4jc0C6p40D4jc0C6p40D4jc0
    C6p40D4r40C6hc0D4r40C6hc0Bbg9oC4jc0
    @Asia/Novosibirsk 19900,21600,25200,28800 -
    B11k5ss.kC3akl7.14DfwfqcC5nacD5m9oC5nacD5m9oC5nacD5ndoC5mbcD5m80C5m80D5m80C5m80D5m80C5m80D5m80
    C5m80D5m80C5m80D5m80C5u00Bb8hoC3gg0D25qcC5m80D5m80C1q30B3w6oC5m80B5m80C5m80B5m80C5u00B6hc0C4r40
    B6hc0C4r40B6hc0C4r40B6p40C4jc0B6p40C4jc0B6p40C4r40B6hc0C4r40B6hc0C4r40B6p40C4jc0B6p40C4jc0B6p40
    C4jc0B6p40C4r40B6hc0C4r40B6hc0C4r40B6p40C4jc0B14eecCjnto
    @Asia/Omsk 17610,18000,21600,25200 -
    B11j87u.uC3bi7t.uDfwfqcC5nacD5m9oC5nacD5m9oC5nacD5ndoC5mbcD5m80C5m80D5m80C5m80D5m80C5m80D5m80
    C5m80D5m80C5m80D5m80C5u00Bb8hoC3gg0D25qcC5m80D5m80C5m80D5m80C5m80D5m80C5m80D5u00C6hc0D4r40C6hc0
    D4r40C6hc0D4r40C6p40D4jc0C6p40D4jc0C6p40D4r40C6hc0D4r40C6hc0D4r40C6p40D4jc0C6p40D4jc0C6p40D4jc0
    C6p40D4r40C6hc0D4r40C6hc0D4r40C6p40D4jc0C14eec
    @Asia/Oral 12324,10800,18000,21600,14400 -
    B12xkia.10C1x60p.oDfwfooCgwucD5m9oC5nacD5ndoC5mbcD5m80C5m80D5m80C5m80D5m80C5m80D5m80C5m80Eb8ho
    C5m80E5u00C5m80E5m80C3gg0E7s00C5m80E5m80C5m80E5m80C5m80E5m80C5u00E6hc0C4r40E6hc0C4r40E6hc0C4r40
    E6p40C4jc0E6p40C4jc0E6p40C4r40E6hc0C4r40E6hc0C4r40
    @Asia/Pontianak 26240,27000,32400,28800,25200 - B15lebu.14C2w73n.kB1551iDtcqiBmj36D4a3suE7ijz6
    @Asia/Pyongyang 30180,30600,32400 - Bxw8i1C16a7tBwg476Cuog0
    @Asia/Qatar 12368,14400,10800 - B11kpm9.1gCgew72.8
    @Asia/Qostanay 15268,14400,18000,21600 -
    B12xkgx.wC1x60e.sDfwfqcCgwucD5m9oC5nacD5ndoC5mbcD5m80C5m80D5m80C5m80D5m80C5m80D5m80C5m80D5m80
    C5m80D5m80C5u00Bb8hoC3gg0D25qcC5m80D5m80C5m80D5m80C5m80D5m80C5m80D5u00C6hc0D4r40C6hc0D4r40C6hc0
    D4r40C6p40D4jc0C6p40D4jc0C6p40D4r40C6hc0D4r40C6hc0D4r40C68mj0
    @Asia/Qyzylorda 15712,14400,18000,21600 -
    B12xkgq.8C1x60l.1gDfwfqcCgwucD5m9oC5nacD5ndoC5mbcD5m80C5m80D5m80C5m80D5m80C5m80D5m80C5m80D5m80
    C5m80D5m80C5u00Deow0C7s00D5m80C5m80D5m80C5m80D5m80C5m80D5u00C6hc0D4r40C6hc0D4r40C6hc0D4r40C6p40
    D4jc0C6p40D4jc0C6p40D4r40C6hc0D4r40C6hc0D4r40C4m2r0
    @Asia/Riyadh 11212,10800 - B1a3bet.8
    @Asia/Sakhalin 34248,32400,39600,43200,36000 -
    Bx2uo5.cCcizku.1cDb5booC5nacD5m9oC5nacD5m9oC5nacD5ndoC5mbcD5m80C5m80D5m80C5m80D5m80C5m80D5m80
    C5m80D5m80C5m80D5m80C5u00Eb8hoC3gg0D25qcC5m80D5m80C5m80D5m80C5m80D5m80C5m80D5u00C6hc0Eb8hoC4r40
    E6hc0C4r40E6p40C4jc0E6p40C4jc0E6p40C4r40E6hc0C4r40E6hc0C4r40E6p40C4jc0E6p40C4jc0E6p40C4jc0E6p40
    C4r40E6hc0C4r40E6hc0C4r40E6p40C4jc0E14eecCfzlo
    @Asia/Samarkand 16073,14400,18000,21600 -
    B12xkgk.7C1x60r.1hDfwfqcCgwucD5m9oC5nacD5ndoC5mbcD5m80C5m80D5m80C5m80D5m80C5m80D5m80C5m80D5m80
    C5m80D5m80C5u00D5m80C5m80
    @Asia/Seoul 30472,30600,32400,36000,34200 -
    Bxw8hw.8C16a7x.1gDbeiv6C37icD68hoC4yucD68hoC4zycD7choC3vycBsipoEcnkuB3x2cE7u9oB43qcE6p5oB4bic
    E6wxoB4bicE6wxoB4bicE6wxoB4bicCa29oD828yiC4r40D6hc0C4r40
    @Asia/Shanghai 29143,28800,32400 -
    Bvmjei.hC5q1s5.17B59ycC6gztoB44ucC4q1oB75qcC2s1oB14ficC7vdoB4aecC61toB666cC5m9oB4pycC6jloBtyc
    Cbkd10B43qcC6hdoB4r2cC6p5oB4jacC6p5oB4r2cC6hdoB4r2cC6hdoB4r2c
    @Asia/Singapore 24925,25200,26400,27000,32400,28800 - Bx0akg.zC8mzjv.pD2pongE56nqD148tiFbd9do
    @Asia/Srednekolymsk 36892,36000,39600,43200 -
    B12xk6x.8C1x60e.1gDfwfqcC5nacD5m9oC5nacD5m9oC5nacD5ndoC5mbcD5m80C5m80D5m80C5m80D5m80C5m80D5m80
    C5m80D5m80C5m80D5m80C5u00Bb8hoC3gg0D25qcC5m80D5m80C5m80D5m80C5m80D5m80C5m80D5u00C6hc0D4r40C6hc0
    D4r40C6hc0D4r40C6p40D4jc0C6p40D4jc0C6p40D4r40C6hc0D4r40C6hc0D4r40C6p40D4jc0C6p40D4jc0C6p40D4jc0
    C6p40D4r40C6hc0D4r40C6hc0D4r40C6p40D4jc0C14eec
    @Asia/Taipei 29160,28800,32400 -
    Bu26iiCd2m86B2hvk0C7a80B4aecC61toB666cC5m9oB4pycC6jloB4pycC6jloB4pycC6jloB4pycC4oxoB7k6cC4nto
    B6lqcC4ntoB6lqcC4ntoB5nacC5ndoB5nacC5m9oB5nacC5m9oB5nacC5m9oB5nacC7j5oB3ricC7i1oB3ricC3ww9oB5nac
    C5m9oB5nacC1695oB2u6c
    @Asia/Tashkent 16631,18000,21600,25200 -
    B12xkga.1dC1x5zd.bDfwfqcC5nacD5m9oC5nacD5m9oC5nacD5ndoC5mbcD5m80C5m80D5m80C5m80D5m80C5m80D5m80
    C5m80D5m80C5m80D5m80C5u00Bb8ho
    @Asia/Tbilisi 10751,10800,14400,18000 -
    B12xkj0.1dCaa3bz.bD7jiecC5nacD5m9oC5nacD5m9oC5nacD5ndoC5mbcD5m80C5m80D5m80C5m80D5m80C5m80D5m80
    C5m80D5m80C5m80D5m80C5u00Bb8hoC5m4oB5m6cC5m9oB5m6cC5m9oDb8ecC5m6cD5u1oChpqcD4r5oC6hacD4r5oC6p2c
    D4jdoC6p2cD4jdoC6p2cD4r5oC6hacD4r5oC6hacD4r5oC2t2cB3w6oC4jc0
    @Asia/Tehran 12344,12600,16200,14400,18000 -
    B16euia.gCd2xa7.18D6ko0E4s8uD43s0B30w0C62wuB3jqcC5ohoB5qmcC3bkhoB4dqcC5m9oB5oecC5l5oB5oecC5l5o
    B5oecC5l5oB5oecC5l5oB5oecC5m9oB5oecC5l5oB5oecC5l5oB5oecC5l5oB5oecC5m9oB5oecC5l5oB5oecC5l5oB5oec
    C5l5oB5oecC5m9oB5oecCs49oB5oecC5m9oB5oecC5l5oB5oecC5l5oB5oecC5l5oB5oecC5m9oB5oecC5l5oB5oecC5l5o
    B5oecC5l5oB5oecC5m9oB5oecC5l5oB5oecC5l5oB5oecC5l5oB5oecC5m9oB5oecC5l5oB5oec
    @Asia/Thimphu 21516,19800,21600 - B1a82e1.oCckdks.10
    @Asia/Tokyo 33539,32400,36000 - Brjzt0Ciw4g0B43s0C69k0B4yw0C7cg0B3w00C7cg0B3w00
    @Asia/Tomsk 20391,21600,25200,28800 -
    B11keek.9C3abzf.1fDfwfqcC5nacD5m9oC5nacD5m9oC5nacD5ndoC5mbcD5m80C5m80D5m80C5m80D5m80C5m80D5m80
    C5m80D5m80C5m80D5m80C5u00Bb8hoC3gg0D25qcC5m80D5m80C5m80D5m80C5m80D5m80C5m80D5u00C6hc0D4r40C6hc0
    D4r40C6hc0D4r40C6p40D4jc0C6p40D4jc0C6p40D4r40Cyg0B5ixoC4r40B6hc0C4r40B6p40C4jc0B6p40C4jc0B6p40
    C4jc0B6p40C4r40B6hc0C4r40B6hc0C4r40B6p40C4jc0B14eecChxlo
    @Asia/Ulaanbaatar 25652,25200,28800,32400 -
    Bx26c4.sCmoe07.wD1n4ucC5nacD5ndoC5m6cD5m9oC5m6cD5m9oC5m6cD5m9oC5m6cD5m9oC5m6cD5m9oC5m6cD5m9o
    C5tycD5m9oC5m6cD5m9oC5m6cD5m9oC5m6cD5m9oC5m6cD5m9oC5m6cD5u1oC5m6cD5m9oC5m6cD5m9oC5m6cDt510C4r2c
    D5m9oC5m6cD5m9oC5m6cD5m9oC5m6cD5m9oC5m6cD5m9oC5tycD2nploC5m30D5md0C5m30
    @Asia/Urumqi 21020,21600 - B142w69.14
    @Asia/Ust-Nera 34374,28800,32400,43200,39600,36000 -
    B11k6g3.6C3ajuk.1iDfwfqcE5n70D5m9oE5nacD5m9oE5nacD5ndoE5mbcD5m80E5m80D5m80E5m80D5m80E5m80D5m80
    E5m80D5m80E5m80D5m80E5u00Fb8hoE3gg0D25qcE5m80D5m80E5m80D5m80E5m80D5m80E5m80D5u00E6hc0D4r40E6hc0
    D4r40E6hc0D4r40E6p40D4jc0E6p40D4jc0E6p40D4r40E6hc0D4r40E6hc0D4r40E6p40D4jc0E6p40D4jc0E6p40D4jc0
    E6p40D4r40E6hc0D4r40E6hc0D4r40E6p40D4jc0E58r0Fz5p0
    @Asia/Vladivostok 31651,32400,36000,39600 -
    B12h2xc.tC2dnbn.vDfwfqcC5nacD5m9oC5nacD5m9oC5nacD5ndoC5mbcD5m80C5m80D5m80C5m80D5m80C5m80D5m80
    C5m80D5m80C5m80D5m80C5u00Bb8hoC3gg0D25qcC5m80D5m80C5m80D5m80C5m80D5m80C5m80D5u00C6hc0D4r40C6hc0
    D4r40C6hc0D4r40C6p40D4jc0C6p40D4jc0C6p40D4r40C6hc0D4r40C6hc0D4r40C6p40D4jc0C6p40D4jc0C6p40D4jc0
    C6p40D4r40C6hc0D4r40C6hc0D4r40C6p40D4jc0C14eec
    @Asia/Yakutsk 31138,28800,32400,36000 -
    B11k6hl.2C3ajt2.1mDfwfqcC5nacD5m9oC5nacD5m9oC5nacD5ndoC5mbcD5m80C5m80D5m80C5m80D5m80C5m80D5m80
    C5m80D5m80C5m80D5m80C5u00Bb8hoC3gg0D25qcC5m80D5m80C5m80D5m80C5m80D5m80C5m80D5u00C6hc0D4r40C6hc0
    D4r40C6hc0D4r40C6p40D4jc0C6p40D4jc0C6p40D4r40C6hc0D4r40C6hc0D4r40C6p40D4jc0C6p40D4jc0C6p40D4jc0
    C6p40D4r40C6hc0D4r40C6hc0D4r40C6p40D4jc0C14eec
    @Asia/Yangon 23087,23400,32400 - B11kphb.dC6zq7u.1bBxvvu
    @Asia/Yekaterinburg 14553,13505,14400,18000,21600 -
    B10hap9.rCy675.sD3f9kx.5EfwfqcD5nacE5m9oD5nacE5m9oD5nacE5ndoD5mbcE5m80D5m80E5m80D5m80E5m80D5m80
    E5m80D5m80E5m80D5m80E5m80D5u00Cb8hoD3gg0E25qcD5m80E5m80D5m80E5m80D5m80E5m80D5m80E5u00D6hc0E4r40
    D6hc0E4r40D6hc0E4r40D6p40E4jc0D6p40E4jc0D6p40E4r40D6hc0E4r40D6hc0E4r40D6p40E4jc0D6p40E4jc0D6p40
    E4jc0D6p40E4r40D6hc0E4r40D6hc0E4r40D6p40E4jc0D14eec
    @Asia/Yerevan 10680,10800,14400,18000 -
    B12xkj2Caa3byD7jiecC5nacD5m9oC5nacD5m9oC5nacD5ndoC5mbcD5m80C5m80D5m80C5m80D5m80C5m80D5m80C5m80
    D5m80C5m80D5m80C5u00Bb8hoC5m80B5m80C5m80B5m80C5m80B5m80C5m80DmomcC6hc0D4r40C6hc0D4r40C6p40D4jc0
    C6p40D4jc0C6p40D4r40C6hc0D4r40C6hc0D4r40C6p40D4jc0C6p40D4jc0C6p40D4jc0C6p40D4r40C6hc0D4r40C6hc0
    D4r40C6p40D4jc0C6p40"

/-- Zones of the Atlantic. -/
def atlantic : String :=
  "@Atlantic/Azores -6160,-6872,-7200,-3600,0,3600 E3.5.0/0,D10.5.0/60
    Bqawyu.14C8rm8h.kD1eb2cC475oD3pc0C71acD489oC71acD489oC71acD49doC71acD489oC71acDs8o0C5a00Dha80
    C56o0D5u00C5eg0D61s0C5eg0D61s0C56o0Dha80C56o0D5m80C5m80Dh2g0C5m80D5eg0C5u00D61s0C56o0D5m80C5m80
    D5eg0C5u00D61s0C6p40D30w0C6z40D5k00C5nc0D4xs0E1amcD3gg0C25toD4bk0E12ucD43s0C1y1oD43s0E1amcD3w00
    C1y1oD43s0E1amcD3w00C1y1oD4yw0C5m80D5md0C5m80D5m80C5m80D5m80C5m80D5m80C5m80D5m80C5u00D5m80C5m80
    D5m80C5m80D5m80C5m80D5m80C5m80D5m80C5u00D5m80C5m80D5m80C5m80D5m80C5m80D5m80C5m80D5m80C5m80D5m80
    C5u00D5m80C5m80D5m80C5m80D5m80C5m80D5m80E506j0D5m80E5m80D5m80E5m80D5u00E5m80D5m80E5m80D5m80E5m80
    D5m80E5m80D5m80E5m80D5m80E5m80D5u00E5m80D5m80E5m80D5m80E2t5oF2t2cE2i00D3480E5m80D5m80E5m80D5m80 E5u00
    @Atlantic/Bermuda -15558,-11958,-14400,-10800 D3.2.0/120,C11.1.0/120
    B10puv7.iA5hqcB60poA4s6cC3jbh0D3rl3g.16C8n2cD4r5oC6wucD43toC7cecD3w1oC7cecDha9oC3o6cD7s1oC38mc
    D7ztoC38mcD87loC30ucD87loC30ucD87loC38mcD15wxoC4r2cD5h95oC5m6cD5m9oC5m6cD5m9oC5tycD5ehoC5tyc
    D5m9oC5m6cD5m9oC5m6cD5m9oC5m6cD5m9oC5m6cD5m9oC5tycD5ehoC5tycD5m9oC5m6cD5m9oC5m6cD5m9oC5m6cD4yxo
    C69icD4yxoC6hacD4r5oC6hacD4r5oC6hacD4yxoC69icD4yxoC69icD4yxoC6hacD4r5oC6hacD4r5oC6hacD4yxoC69ic
    D4yxoC69icD4yxoC69icD4yxoC6hacD4r5oC6hacD4r5oC6hacD4yxoC69icD4yxoC69icD4yxoC6hacD4r5oC6hacD4r5o C6hacD43to
    @Atlantic/Canary -3696,-3600,0,3600 D3.5.0/60,C10.5.0/120
    B1293lp.10C7p4pm.oDahu4oC5ehoD5m80C5m80D5m80C5m80D5m80C5m80D5m80C5u00D5m80C5m80D5m80C5m80D5m80
    C5m80D5m80C5m80D5m80C5m80D5m80C5u00D5m80C5m80D5m80C5m80D5m80C5m80D5m80C5m80D5m80C5m80D5u00
    @Atlantic/Cape_Verde -5644,-7200,-3600 - Bz2j7cC9lpk0Bz6mcC9fg50
    @Atlantic/Faroe -1624,0,3600 C3.5.0/60,B10.5.0/120
    Bxtqwr.4Cmxc8w.1kB5m80C5m80B5m80C5m80B5m80C5m80B5u00C5m80B5m80C5m80B5m80C5m80B5m80C5m80B5m80
    C5m80B5m80C5m80B5u00C5m80B5m80C5m80B5m80C5m80B5m80C5m80B5m80C5m80B5m80C5u00
    @Atlantic/Madeira -4056,-3600,0,3600 D3.5.0/60,C10.5.0/120
    Bz2j5oC1eb2cB475oC3pc0B71acC489oB71acC489oB71acC49doB71acC489oB71acCs8o0B5a00Cha80B56o0C5u00
    B5eg0C61s0B5eg0C61s0B56o0Cha80B56o0C5m80B5m80Ch2g0B5m80C5eg0B5u00C61s0B56o0C5m80B5m80C5eg0B5u00
    C61s0B6p40C30w0B6z40C5k00B5nc0C4xs0D1amcC3gg0B25toC4bk0D12ucC43s0B1y1oC43s0D1amcC3w00B1y1oC43s0
    D1amcC3w00B1y1oC4yw0B5m80C5md0B5m80C5m80B5m80C5m80B5m80C5m80B5m80C5m80B5u00C5m80B5m80C5m80B5m80
    C5m80B5m80C5m80B5m80C5m80B5u00C5m80B5m80C5m80B5m80C5m80B5m80C5m80B5m80C5m80B5m80C5m80B5u00C5m80
    B5m80C5m80B5m80C5m80B5m80C5m80D50eb0C5eg0D5m80C5m80D5m80C5u00D5m80C5m80D5m80C5m9oD5m80C5m80D5m80
    C5m80D5m80C5m80D5m80C5u00D5m80C5m80D5m80C5m80D5m80C5m80D5m80C5m80D5m80C5m80D5u00
    @Atlantic/South_Georgia -8768,-7200 - Bs6kk2.8
    @Atlantic/Stanley -13884,-14400,-10800,-7200 -
    Bz4q6f.oC7zxk8.10B5eecC5u1oB5eecC61toB5eecC5u1oB5eecC5u1oB5eecC5u1oB2ymcCcmmpoD4jacC6p2cD4blo
    C6wucBb0poC4jdoB6p2cC4jdoB6p2cC4jdoB6p2cC4jdoB6wucC4bloB6wucC4jdoB6p2cC4jdoB6p2cC4jdoB6p2cC4jdo
    B6p2cC4jdoB6wucC4jdoB6p2cC4jdoB6p2cC4jdoB6p2cC4jdoB6p2cC4jdoB6p5oC4bloB74mcC43toB74mcC4bloB6wuc
    C4bloB6wucC4bloB6wucC4bloB6wucC4bloB74mcC4bloB6wucC4bloB6wucC4blo"

/-- Zones of Australia. -/
def australia : String :=
  "@Australia/Adelaide 33260,32400,34200,37800 D10.1.0/120,C4.1.0/180
    Btrvcl.14C1bu8e.kD5j76iC2k80D7r9c0C2oo0D5m80C5m80D5u00C5eg0D8n400C3o80D7k80C3w00D7cg0C3w00D7cg0
    C3w00D7cg0C43s0D7cg0C3w00D7cg0C3w00D7cg0C3w00D7cg0C3w00D7cg0C3w00D7cg0C43s0D7cg0C3w00D7cg0C3w00
    D7cg0C3w00D7cg0C4bk0D6p40C4jc0D6ww0C4jc0D6ww0C4bk0D6ww0C4bk0D6ww0C3w00D7cg0C4jc0D6p40C43s0D7cg0
    C4bk0D6ww0C4jc0D6p40C4r40D6hc0C4r40D6hc0C4r40D6hc0C4r40D6p40C4jc0D6p40C4jc0D6p40C4r40D6hc0C4r40
    D6hc0C4r40D6p40C4jc0D6p40C4r40D6hc0C4jc0D6p40
    @Australia/Brisbane 36728,36000,39600 -
    Btqwuz.1gC6vzvo.8B2k80C7r9c0B2oo0C5m80B5m80C5u00B5eg0C8n400B3o80C5j740B3w00C7cg0B3w00C7cg0B3w00
    @Australia/Broken_Hill 33948,36000,32400,34200,37800 E10.1.0/120,D4.1.0/180
    Btrvca.cChk71.1cDua1oE5j76iD2k80E7r9c0D2oo0E5m80D5m80E5u00D5eg0E8n400D3o80E7k80D3w00E7cg0D3w00
    E7cg0D3w00E7cg0D43s0E7cg0D3w00E7cg0D3w00E7cg0D3w00E7cg0D3w00E7cg0D3w00E7cg0D4yw0E6hc0D3w00E7cg0
    D3w00E7cg0D3w00E7cg0D4bk0E6p40D4jc0E6ww0D4jc0E6ww0D4bk0E6ww0D3w00E7cg0D3w00E7cg0D3w00E7cg0D43s0
    E7cg0D3w00E7cg0D3w00E7cg0D4r40E6hc0D4r40E6hc0D4r40E6hc0D4r40E6p40D4jc0E6p40D4jc0E6p40D4r40E6hc0
    D4r40E6hc0D4r40E6p40D4jc0E6p40D4r40E6hc0D4jc0E6p40
    @Australia/Darwin 31400,32400,34200,37800 - Btrvdg.14C1bu7j.kD5j76iC2k80D7r9c0C2oo0D5m80C5m80D5u00C5eg0
    @Australia/Eucla 30928,31500,35100 -
    Bu181o.wC6lor2.sB2k80C7r9c0B2oo0C5m80B5m80C9w1s0B3w00C2pnk0B3w00C2euo0B38o0C4mcw0B3gg0C6p40B4r40
    C6hc0B4r40
    @Australia/Hobart 35356,36000,39600 C10.1.0/120,B4.1.0/180
    Btyevm.18C6lnn1.gB5eg0C6p40B3w00C7cg0B3w00C75fs0B2oo0C5m80B5m80C5u00B5eg0C7d3c0B5m80C6hc0B43s0
    C74o0B43s0C74o0B4bk0C74o0B3o80C7k80B3w00C7cg0B3w00C7cg0B3w00C7cg0B43s0C7cg0B3w00C7cg0B3w00C7cg0
    B3w00C7cg0B3w00C7cg0B3w00C7cg0B4r40C6p40B4jc0C6p40B3w00C7cg0B3w00C7cg0B3w00C74o0B4jc0C6ww0B4jc0
    C6ww0B4bk0C6ww0B4bk0C6ww0B4r40C5u00B5eg0C5u00B5eg0C5u00B5eg0C5u00B5eg0C5u00B5m80C5u00B5eg0C5u00
    B5eg0C5u00B5eg0C5u00B5eg0C4r40B6hc0C61s0B5eg0C5u00B5eg0C5u00B5eg0C5u00B5eg0C5u00B5m80C5m80B5eg0 C61s0
    @Australia/Lindeman 35756,36000,39600 -
    Btqwvg.4C6vzv7.1kB2k80C7r9c0B2oo0C5m80B5m80C5u00B5eg0C8n400B3o80C5j740B3w00C7cg0B3w00C7cg0B3w00
    C7cg0B43s0C7cg0B3w00
    @Australia/Lord_Howe 38180,36000,37800,41400,39600 E10.1.0/120,C4.1.0/120
    Btrvab.14Cqyc90.kD7ciiC43qcD7choC3vycD7choC3vycD7choC3vycE7choC4bj6E6p4uC4jb6E6wwuC4jb6E6wwu
    C4bj6E6wwuC3vz6E7cguC3vz6E7cguC3vz6E7cguC43r6E7cguC3vz6E7cguC3vz6E7cguC4r36E6hcuC4r36E6hcuC4r36
    E6hcuC4r36E6p4uC4jb6E4r4uC6hb6E6p4uC4r36E6hcuC4r36E6hcuC4r36E6p4uC4jb6E6p4uC4r36E6hcuC4jb6E6p4u
    @Australia/Melbourne 34792,36000,39600 C10.1.0/120,B4.1.0/180
    Btrvbw.8C6v1er.1gB2k80C7r9c0B2oo0C5m80B5m80C5u00B5eg0C8n400B3o80C7k80B3w00C7cg0B3w00C7cg0B3w00
    C7cg0B43s0C7cg0B3w00C7cg0B3w00C7cg0B3w00C7cg0B3w00C7cg0B3w00C7cg0B43s0C7cg0B3w00C7cg0B3w00C7cg0
    B3w00C7cg0B4bk0C6p40B4jc0C6p40B4r40C6ww0B4bk0C6ww0B4bk0C6ww0B3w00C7cg0B3w00C7cg0B43s0C7cg0B3w00
    C7cg0B4jc0C6p40B4r40C6hc0B4r40C6hc0B4r40C6hc0B4r40C6p40B4jc0C4r40B6hc0C6p40B4r40C6hc0B4r40C6hc0
    B4r40C6p40B4jc0C6p40B4r40C6hc0B4jc0C6p40
    @Australia/Perth 27804,28800,32400 -
    Bu1834.10C6loqv.oB2k80C7r9c0B2oo0C5m80B5m80C9w1s0B3w00C2pnk0B3w00C2euo0B38o0C4mcw0B3gg0C6p40
    B4r40C6hc0B4r40
    @Australia/Sydney 36292,36000,39600 C10.1.0/120,B4.1.0/180
    Btrvb7.8C6v1fg.1gB2k80C7r9c0B2oo0C5m80B5m80C5u00B5eg0C8n400B3o80C7k80B3w00C7cg0B3w00C7cg0B3w00
    C7cg0B43s0C7cg0B3w00C7cg0B3w00C7cg0B3w00C7cg0B3w00C7cg0B3w00C7cg0B4yw0C6hc0B3w00C7cg0B3w00C7cg0
    B3w00C7cg0B4bk0C6p40B4jc0C6ww0B4jc0C6ww0B4bk0C6ww0B3w00C7cg0B3w00C7cg0B3w00C7cg0B43s0C7cg0B3w00
    C7cg0B3w00C7cg0B4r40C6hc0B4r40C6hc0B4r40C6hc0B4r40C6p40B4jc0C4r40B6hc0C6p40B4r40C6hc0B4r40C6hc0
    B4r40C6p40B4jc0C6p40B4r40C6hc0B4jc0C6p40"

/-- Zones of Europe. -/
def europe : String :=
  "@Europe/Andorra 364,0,3600,7200 D3.5.0/120,C10.5.0/180
    Bvmjrt.1kCebog6.4Dc20hoC5m80D5m80C5m80D5m80C5m80D5m80C5m80D5m80C5m80D5m80C5u00D5m80C5m80D5m80
    C5m80D5m80C5m80D5m80C5m80D5m80C5m80D5u00
    @Europe/Astrakhan 11532,10800,14400,18000 -
    B12xjen.1cC1x74c.cDfwfqcC5nacD5m9oC5nacD5m9oC5nacD5ndoC5mbcD5m80C5m80D5m80C5m80D5m80C5m80D5m80
    C5m80Bb8hoC5m80B5u00C5m80Bguo0C5m80B5m80C5m80B5m80C5m80B5m80C5u00B6hc0C4r40B6hc0C4r40B6hc0C4r40
    B6p40C4jc0B6p40C4jc0B6p40C4r40B6hc0C4r40B6hc0C4r40B6p40C4jc0B6p40C4jc0B6p40C4jc0B6p40C4r40B6hc0
    C4r40B6hc0C4r40B6p40C4jc0B14eecCfzlo
    @Europe/Athens 5692,7200,10800,3600 C3.5.0/180,B10.5.0/240
    B10i2le.8C4zpz9.1gB1q6cC2owxoBpicDh0eoB4kcoD5sucB5ndoC2kwecB3tqcC70ypoB71c0C48bcB5m80C5eg0B5fk0
    C5sw0B5ehoC5ua0B5kqoC5picB5jycC5meoB5m80C5m80B5m80C5m80B5m80C5m80B5u00C5m80B5m80C5m80B5m80C5m80
    B5m80C5m80B5m80C5m80B5m80C5m80B5u00C5m80B5m80C5m80B5m80C5m80B5m80C5m80B5m80C5m80B5m80C5u00
    @Europe/Belgrade 4920,3600,7200 C3.5.0/120,B10.5.0/180
    BqawtqChxw6yBhcl0C4jc0B5u00C5m80B5m80C6q80B41k0Cbr0w0B5m80C5m80B5u00C5m80B5m80C5m80B5m80C5m80
    B5m80C5m80B5m80C5m80B5m80C5m80B5u00C5m80B5m80C5m80B5m80C5m80B5m80C5m80B5m80C5m80B5m80C5u00
    @Europe/Berlin 3208,3600,7200,10800 C3.5.0/120,B10.5.0/180
    Bt766i.wC786m5.sB4q1oC62zcB4r40C6hc0B4r40C6qu80Bt600C4jc0B5u00C5m80B5m80C5m80D1lqcC3so0B1p5o
    C4jc0B5fk0C5l5oD12ucC1iecB30xoC61s0B56o0C5u00B5eg0C9jy80B5eg0C5m80B5m80C5m80B5m80C5m80B5m80C5m80
    B5u00C5m80B5m80C5m80B5m80C5m80B5m80C5m80B5m80C5m80B5m80C5m80B5u00C5m80B5m80C5m80B5m80C5m80B5m80
    C5m80B5m80C5m80B5m80C5u00
    @Europe/Brussels 1050,0,3600,7200 D3.5.0/120,C10.5.0/180
    Bswu00C71uw0DgnycC4q00D62zcC4r40D6hc0C4r40B1qooC3es0B6p40C43s0B7s00C4ds0B6y00C4ns0B61s0C61s0
    B56o0C5eg0B5u00C5m80B5m80C61s0B56o0C5u00B5eg0C61s0B5el0C61s0B56o0C5u00B5eg0C61s0B56o0C5m80B5m80
    C5eg0B61s0C5m80B5m80C5eg0B5u00C61s0B56o0C5m80B5m80C5eg0B5u00C61s0B6p40C30w0D2mg0CrnicD4jc0C5u00
    D5m80C55k0D62w0C55k0D7k80C4co0D9jpc0C5eg0D5u00C5m80D5m80C5m80D5u00C5eg0D5m80C5m80D5m80C5m80D5m80
    C5m80D5m80C5u00D5m80C5m80D5m80C5m80D5m80C5m80D5m80C5m80D5m80C5m80D5m80C5u00D5m80C5m80D5m80C5m80
    D5m80C5m80D5m80C5m80D5m80C5m80D5u00
    @Europe/Bucharest 6264,7200,10800 C3.5.0/180,B10.5.0/240
    B1570t3.10C9bjk.oB44w0C5m80B5m80C5u00B5m80C5m80B5m80C5m80B5m80C5m80B5m80C5m80B5m80C5m80B5m80
    Ccf080B3vycC5u00B5ehoC5mbcB5m80C5m80B5m80C5m80B5m80C5m80B5u00C5m80B5m80C5m80B5m80C5m80B5m80C5m80
    B5m80C5m80B5m80C5m80B5u00C5m4oB5m80C5m80B5m80C5m80B5m80C5m80B5m6cC5m9oB5m6cC5u1oB6hacC4rao
    @Europe/Budapest 4580,3600,7200 C3.5.0/120,B10.5.0/180
    Bsfy5v.14C7zems.kB4q1oC62zcB4r40C6hc0B4r40C6ig0B4q00C69k0B56o0C6fmr0Bhot0C4jc0B5u00C5m80B5m80
    C6jf0B5ndoC4mrcB5v2cC5l5oB5m80C5m80B5m80C5u00B5eg0C1ga4oB43qcC74t0B43s0C7k80B3o80C7k80B3o80
    C71usoB5eg0C5m80B5m80C5m80B5m80C5m80B5m80C5mbcB5u00C5m80B5m80C5m80B5m80C5m80B5m80C5m80B5m80C5m80
    B5m80C5m80B5u00C5m80B5m80C5m80B5m80C5m80B5m80C5m80B5m80C5m80B5m80C5u00
    @Europe/Chisinau 6920,6900,6264,7200,10800,3600,14400 E3.5.0/120,D10.5.0/180
    Bp1tgs.14Cbxr40.kD47g8a.10E9bjk.oD44w0E5m80D5m80E5u00D5m80E5m80D5m80E5m80D5m80E5m80D5m80E5m80
    D5m80E5m80D5m80E9ug0DadacFelqoD4jc0F5u00D5m80E4er0GbgmecE5nacG5m9oE5nacG5m9oE5nacG5ndoE5mbcG5m80
    E5m80G5m80E5m80G5m80E5m80G5m80E5m80G5m80E5m80G5m80E1amcD4jfcE5m80D5m80E5m4oD5m6cE5m9oD5m6cE5m9o
    D5m6cE5m9oD5m6cE5u1oD6hacE4r90D6hc0E4r40D6hc0E4r40D6p40E4jc0D6p40E4jc0D6p40E4r40D6hc0E4r40D6hc0
    E4r40D6p40E4jc0D6p40E4jc0D6p40E4jc0D6p40E4r40D6hc0E4r40D6hc0E4r40D6p40E4jc0D6p40E4jc0D6p40E4r40
    D6hc0E4r40D6hc0E4r40D6hc0E4r40D6p40E4jc0D6p40E4jc0D6p40E4r40D6hc0E4r40D6hc0E4r40D6p40E4jc0
    @Europe/Dublin -1521,2079,0,3600 D3.5.0/60,C10.5.0/120
    B10fz81.lC43s0D5tza.13C5000D5sw0C5v40D5l40C5nc0D5l40C6ig0D4xs0C5nc0D5dc0C61s0D61s0C4jc0D6hc0
    C4yw0D6hc0C56o0D61s0C56o0D5u00C5eg0D69k0C56o0D61s0C56o0D5u00C5eg0D61s0C56o0D61s0C56o0D5u00C5m80
    D61s0C56o0D5u00C5eg0D61s0C56o0D61s0C56o0D5u00C5eg0D61s0C6p40D30w0C22jc0D4yw0C74o0D56o0C61s0D4r40
    C6hc0D56o0C5u00D5eg0C5u00D5m80C5u00D5eg0C56o0D5u00C5eg0D61s0C56o0D69k0C56o0D5u00C5eg0D61s0C56o0
    D61s0C56o0D5u00C5eg0D5eg0C6p40D4jc0C6p40D4r40C6hc0D4jc0C6p40D4jc0C6p40D4jc0C6p40D4jc0C6ww0D3gg0
    C15p40D4bk0C6ww0D4bk0C6ww0D4bk0C6ww0D4bk0C6ww0D4jc0C6p40D4jc0C6p40D4jc0C6ww0D4bk0C6ww0D4bk0C6ww0
    D4r2cC6hc0D4r40C6hc0D4r40C6hc0D4r40C6p40D4r40C6hc0D4r40C6hc0D4r40C6hc0D4r40C6hc0D4r40C6p40D4jc0
    C6p40D4r40C6hc0D4r40C6hc0D4r40C6hc0D4r40C6hc0D4r40C6hc0D4yw0
    @Europe/Gibraltar -1284,0,3600,7200 D3.5.0/120,C10.5.0/180
    Bp8fcl.oCb7juq.10B43s0C5u00B5000C5sw0B5v40C5l40B5nc0C5l40B6ig0C4xs0B5nc0C5dc0B61s0C61s0B4jc0
    C6hc0B4yw0C6hc0B56o0C61s0B56o0C5u00B5eg0C69k0B56o0C61s0B56o0C5u00B5eg0C61s0B56o0C61s0B56o0C5u00
    B5m80C61s0B56o0C5u00B5eg0C61s0B56o0C61s0B56o0C5u00B5eg0C61s0B6p40C30w0Dde6cC30w0D7cg0C3w00D7cg0
    C43s0D74o0C56o0D62w0C37k0B2ldoC5u00B5eg0C4yw0Dv2cC3o80B2ldoC43s0B74o0C4r40B6hc0C56o0B5u00C5eg0
    B5u00C5m80B5u00C5eg0B56o0C5u00B5eg0C61s0B56o0C69k0B56o0C5u00D7tamcC5m80D5m80C5m80D5m80C5u00D5m80
    C5m80D5m80C5m80D5m80C5m80D5m80C5m80D5m80C5m80D5m80C5u00D5m80C5m80D5m80C5m80D5m80C5m80D5m80C5m80
    D5m80C5m80D5u00
    @Europe/Helsinki 5989,7200,10800 C3.5.0/180,B10.5.0/240
    B11zpp8.bC6jv3f.1dB5og0Cc1tvcB5m80C5m80B5m80C5m9oB5m80C5m80B5u00C5m80B5m80C5m80B5m80C5m80B5m80
    C5m80B5m80C5m80B5m80C5m80B5u00C5m80B5m80C5m80B5m80C5m80B5m80C5m80B5m80C5m80B5m80C5u00
    @Europe/Istanbul 6952,7016,7200,10800,14400 -
    Bp1tgs.8C9mlry.1kD1qxjw.1kC4pycD13bloC6iecD4xtoC5nacD5ddoC61qcDhztoC4cmcD6jloC4pycD4m9loC2zqc
    D1q9oC92mcD5xdoC13oucD7a9oC3ricD67doC56mcD61toC56mcD5u1oC5eecD61toC5eecD61toC56mcD3df5oCekec
    D641oC4aecD2pqzcC4r40D4jdoC6p2cD4ahoC6xycD4bloC6wucD4r5oC61qcD56poE1o26cD1xycCc81oD58w0C4yw0
    D5nc0C5m80D5m80C5m80D5m80C5m80D5m80C5m80D5m80C5u00D5m80C5m80D5m80C5m80D5m80C5m80D5eg0C5u00D5m80
    C5m80D5u00C6hc0D4r40C6hc0D4r40C6hc0D4r40C6p40D4jc0C6p40D4jc0C6p40D4r40C6hc0D4r40C6hc0D4r40C6p40
    D4jc0C6p40D4jc0C6p40D4jfcC6p40D4r40C6hc0D4r40C6hc0D4r40C6p40D4kg0C6o00D4jc0C6p40D4r40C6hc0D4s80
    C6g80D4r40C6ww0D4bk0
    @Europe/Kaliningrad 4920,3600,7200,10800,14400 -
    Bt765qC786myB4q1oC62zcB4r40C6hc0B4r40C6qu80Bt600C4jc0B5u00C5m80B5m80C5m80Dtv0C5qmcD4uhoEaydqc
    D5nacE5m9oD5nacE5m9oD5nacE5ndoD5mbcE5m80D5m80E5m80D5m80E5m80D5m80E5m80D5m80Cb8hoD5m80C5u00D5m80
    C5m80D5m80C5m80D5m80C5m80D5m80C5m80D5m80C5m80D5u00C6hc0D4r40C6hc0D4r40C6hc0D4r40C6p40D4jc0C6p40
    D4jc0C6p40D4r40C6hc0D4r40C6hc0D4r40C6p40D4jc0C6p40D4jc0C6p40D4jc0C6p40D4r40C6hc0D4r40C6hc0D4r40
    C6p40D4jc0C14eec
    @Europe/Kirov 11928,10800,14400,18000 -
    B11f1c0C3fp70DfwfqcC5nacD5m9oC5nacD5m9oC5nacD5ndoC5mbcD5m80C5m80D5m80C5m80D5m80C5m80D5m80C5m80
    Bb8hoC5m80B5u00C5m80Bguo0C5m80B5m80C5m80B5m80C5m80B5m80C5u00B6hc0C4r40B6hc0C4r40B6hc0C4r40B6p40
    C4jc0B6p40C4jc0B6p40C4r40B6hc0C4r40B6hc0C4r40B6p40C4jc0B6p40C4jc0B6p40C4jc0B6p40C4r40B6hc0C4r40
    B6hc0C4r40B6p40C4jc0B14eec
    @Europe/Kyiv 7324,7200,10800,3600,14400 C3.5.0/180,B10.5.0/240
    B12xkkl.1kC1x602.4B3iticDclioB4jc0D5u00C10koEbpmsoC5nacE5m9oC5nacE5m9oC5nacE5ndoC5mbcE5m80C5m80
    E5m80C5m80E5m80C5m80E5m80C5m80E5m80C5m80E5m80C30ucBe1ncC5m80B5m80C5m80B5m80C5m80B5m80C5m80B5m80 C5u00B6hdo
    @Europe/Lisbon -2205,0,3600,7200 C3.5.0/60,B10.5.0/120
    Bz2j40C1eb2cB475oC3pc0B71acC489oB71acC489oB71acC49doB71acC489oB71acCs8o0B5a00Cha80B56o0C5u00
    B5eg0C61s0B5eg0C61s0B56o0Cha80B56o0C5m80B5m80Ch2g0B5m80C5eg0B5u00C61s0B56o0C5m80B5m80C5eg0B5u00
    C61s0B6p40C30w0B6z40C5k00B5nc0C4xs0D1amcC3gg0B25toC4bk0D12ucC43s0B1y1oC43s0D1amcC3w00B1y1oC43s0
    D1amcC3w00B1y1oC4yw0B5m80C5md0B5m80C5m80B5m80C5m80B5m80C5m80B5m80C5m80B5u00C5m80B5m80C5m80B5m80
    C5m80B5m80C5m80B5m80C5m80B5u00C5m80B5m80C5m80B5m80C5m80B5m80C5m80B5m80C5m80B5m80C5m80B5u00C5m80
    B5m80C5m80B5m80C5m80B5m80C5m80B3a6coC5m80B5m80C5u1oB5m80C5m80B5m80C5u00B5eg0C5m6cB5m80C5m80B5m80
    C5m80B5m80C5m80B5u00C5m80B5m80C5m9oB5m80C5m80B5m80C5m80B5m80C5m80B5m80C5m80B5u00C5m80B5m80C5m80
    Db8g0C5m80D5m80C5m80D5m80C5m80Bcbc0
    @Europe/London -75,0,3600,7200 C3.5.0/60,B10.5.0/120
    Bf04g1.fClfura.19B43s0C5u00B5000C5sw0B5v40C5l40B5nc0C5l40B6ig0C4xs0B5nc0C5dc0B61s0C61s0B4jc0
    C6hc0B4yw0C6hc0B56o0C61s0B56o0C5u00B5eg0C69k0B56o0C61s0B56o0C5u00B5eg0C61s0B56o0C61s0B56o0C5u00
    B5m80C61s0B56o0C5u00B5eg0C61s0B56o0C61s0B56o0C5u00B5eg0C61s0B6p40C30w0Dde6cC30w0D7cg0C3w00D7cg0
    C43s0D74o0C56o0D62w0C37k0B2ldoC5u00B5eg0C4yw0Dv2cC3o80B2ldoC43s0B74o0C4r40B6hc0C56o0B5u00C5eg0
    B5u00C5m80B5u00C5eg0B56o0C5u00B5eg0C61s0B56o0C69k0B56o0C5u00B5eg0C61s0B56o0C61s0B56o0C5u00B5eg0
    C5eg0B6p40C4jc0B6p40C4r40B6hc0C4jc0B6p40C4jc0B6p40C4jc0B6p40C4jc0B6ww0C3gg0B15p40C4bk0B6ww0C4bk0
    B6ww0C4bk0B6ww0C4bk0B6ww0C4jc0B6p40C4jc0B6p40C4jc0B6ww0C4bk0B6ww0C4bk0B6ww0C4r2cB6hc0C4r40B6hc0
    C4r40B6hc0C4r40B6p40C4r40B6hc0C4r40B6hc0C4r40B6hc0C4r40B6hc0C4r40B6p40C4jc0B6p40C4r40B6hc0C4r40
    B6hc0C4r40B6hc0C4r40B6hc0C4r40B6hc0C4yw0
    @Europe/Madrid -884,0,3600,7200 D3.5.0/120,C10.5.0/180
    Bvmjs0C5evicB5ddoC5m6cB5ndoC1f1qcB5a1oCha6cB56poC5tycB5ehoC61s0B5eg0C61qcB56poC2eracB3c1oC5m6c
    Dv2cC4s80Bbf7cC4yucDnzacC3qhoD72ecC56poD61qcC56poD61qcC56poD61qcC56poDt5ycC4r5oD7ojicC5ehoD5tyc
    C5ehoD5eecC5m9oD5tycC5ehoD5u3cC5m80D5m80C5m80D5u00C5eg0D5m80C5m80D5m80C5m80D5m80C5m80D5m80C5u00
    D5m80C5m80D5m80C5m80D5m80C5m80D5m80C5m80D5m80C5m80D5m80C5u00D5m80C5m80D5m80C5m80D5m80C5m80D5m80
    C5m80D5m80C5m80D5u00
    @Europe/Malta 3484,3600,7200 C3.5.0/120,B10.5.0/180
    Btdt2d.1kC72ljy.4B3o6cC5m9oB5nacC4xtoB6iecC4i9oB6p2cC56poB5m6cC66i1oBqurcC4jc0B5u00C5l40B56o0
    C62w0B54coC5nfcB69k0C4ysoB69k0C4jfcB6p40C5irgoB3vycC7k9oB3o80C7k80B3o80C7s00B3o80C7k80B3o80C7cg0
    B3w00C7k80B3w00C5l40B5m80C6ao0B4kg0C6o3cB4r2cC6hdoB4r2cC6hdoB4r2cC6hdoB4r2cC6hdoB4r2cC62xoB5dac
    C5u1oB5m80C5m80B5m80C5m80B5m80C5m80B5u00C5m80B5m80C5m80B5m80C5m80B5m80C5m80B5m80C5m80B5m80C5m80
    B5u00C5m80B5m80C5m80B5m80C5m80B5m80C5m80B5m80C5m80B5m80C5u00
    @Europe/Minsk 6616,6600,7200,10800,3600,14400 -
    Bp1tgx.18Cdvr40.gD1x5zqC3g86cEf6uoC4jc0E5u00C5m80D2sz0Fbi86cD5nacF5m9oD5nacF5m9oD5nacF5ndoD5mbc
    F5m80D5m80F5m80D5m80F5m80D5m80F5m80D5m80F5m80D5m80CmopoD5m80C5m80D5m80C5m80D5m80C5m80D5m80C5m80
    D5u00C6hc0D4r40C6hc0D4r40C6hc0D4r40C6p40D4jc0C6p40D4jc0C6p40D4r40C6hc0D4r40C6hc0D4r40C6p40D4jc0
    C6p40D4jc0C6p40D4jc0C6p40D4r40C6hc0D4r40C6hc0D4r40C6p40D4jc0
    @Europe/Moscow 9017,9079,12679,16279,14400,10800,18000,7200 -
    B10hart.17Cb8ea.1mB5iw0D4s6cC3axoD7ymcExjj.jF1excEgy00G11qcE5280FxdoHb9loF2f1doEfwfqcF5nacE5m9o
    F5nacE5m9oF5nacE5ndoF5mbcE5m80F5m80E5m80F5m80E5m80F5m80E5m80F5m80E5m80F5m80E5m80F5u00Hb8hoF3gg0
    E25qcF5m80E5m80F5m80E5m80F5m80E5m80F5m80E5u00F6hc0E4r40F6hc0E4r40F6hc0E4r40F6p40E4jc0F6p40E4jc0
    F6p40E4r40F6hc0E4r40F6hc0E4r40F6p40E4jc0F6p40E4jc0F6p40E4jc0F6p40E4r40F6hc0E4r40F6hc0E4r40F6p40
    E4jc0F14eec
    @Europe/Paris 561,0,3600,7200 D3.5.0/120,C10.5.0/180
    Byte7q.13C1ncml.lB3d40C5dc0B62w0C4q00B6ig0C4i80B6q80C42o0B7s00C4ds0B6y00C4ns0B61s0C74o0B43s0
    C5eg0B5u00C5m80B5m80C61s0B56o0C5u00B5eg0C61s0B5eg0C61s0B56o0C5u00B5eg0C61s0B56o0C5m80B5m80C5eg0
    B61s0C5m80B5m80C5eg0B5u00C61s0B56o0C5m80B5m80C5eg0B5u00C61s0B6p40C3110D3f5cCqut0D4jc0C5u00D5m80
    C5ssoD5fncC55k0D9k5ycC5m6cD5u3cC5eg0D5u00C5m80D5m80C5m80D5u00C5eg0D5m80C5m80D5m80C5m80D5m80C5m80
    D5m80C5u00D5m80C5m80D5m80C5m80D5m80C5m80D5m80C5m80D5m80C5m80D5m80C5u00D5m80C5m80D5m80C5m80D5m80
    C5m80D5m80C5m80D5m80C5m80D5u00
    @Europe/Prague 3464,3600,7200,0 C3.5.0/120,B10.5.0/180
    Bsq9ae.gC7p3i9.18B4q1oC62zcB4r40C6hc0B4r40C6qu80Bt600C4jc0B5u00C5m80B5m80C5m80B5m80C6p40B4q00
    D1q9oB2lc0C1q6cB56o0C61s0B56o0C5sw0B5fk0C98i00B5m80C5u00B5eg0C5m80B5m80C5m80B5m80C5m80B5m80C5m80
    B5u00C5m80B5m80C5m80B5m80C5m80B5m80C5m80B5m80C5m80B5m80C5m80B5u00C5m80B5m80C5m80B5m80C5m80B5m80
    C5m80B5m80C5m80B5m80C5u00
    @Europe/Riga 5794,9394,7200,10800,3600,14400 D3.5.0/180,C10.5.0/240
    B111e8n.qA4r40B62w0A1ko0C26ksoD4ghrc.yCa6mcEf3ioC4jc0E5u00C5m80E5m80Dc4oFbf2soD5nacF5m9oD5nac
    F5m9oD5nacF5ndoD5mbcF5m80D5m80F5m80D5m80F5m80D5m80F5m80D5m80Cb8hoD5m80C5u00D5m80C5m80D5m80C5m80
    D5m80C5m80D5m80C5m80D5m80C5m80D5u00C5m80D5m9oC6hc0D4r40C6hc0D4r40C6p40Dfrs0
    @Europe/Rome 2996,3600,7200 C3.5.0/120,B10.5.0/180
    BtdrycC72mo0B3o6cC5m9oB5nacC4xtoB6iecC4i9oB6p2cC56poB5m6cC66i1oBqurcC4jc0B5u00C5m80B55k0C62w0
    B54coC5nfcB69k0C4ysoB69k0C4jfcB6p40C5irgoB3vycC7k9oB3o80C7k80B3o80C7s00B3o80C7k80B3o80C7cg0B3w00
    C7k80B3w00C7k80B3o80C7cg0B3w00C7k80B3o80C7k80B3o80C7cg0B3w00C7k80B3w00C7cg0B3w00C5u3cB5eg0C5m80
    B5m80C5m80B5m80C5m80B5m80C5m80B5u00C5m80B5m80C5m80B5m80C5m80B5m80C5m80B5m80C5m80B5m80C5m80B5u00
    C5m80B5m80C5m80B5m80C5m80B5m80C5m80B5m80C5m80B5m80C5u00
    @Europe/Samara 12020,10800,14400,18000 -
    B11f1c0C3fp70DfwfqcC5nacD5m9oC5nacD5m9oC5nacD5ndoC5mbcD5m80C5m80D5m80C5m80D5m80C5m80D5m80C5m80
    Bb8hoC5m80B5u00CbvtoD4ysoC5m80D5m80C5m80D5m80C5m80D5m80C5m80D5u00C6hc0D4r40C6hc0D4r40C6hc0D4r40
    C6p40D4jc0C6p40D4jc0C6p40D4r40C6hc0D4r40C6hc0D4r40C6p40D4jc0C6p40D4jc0C6p40D4jc0C6p40D4r40C6hc0
    D4r40C6hc0Bbg9oC4jc0
    @Europe/Saratov 11058,10800,14400,18000 -
    B11f1c0C3fp70DfwfqcC5nacD5m9oC5nacD5m9oC5nacD5ndoC5mbcD5m80C5m80D5m80C5m80D5m80C5m80Bb8hoC5m80
    B5m80C5m80B5u00C5m80Bguo0C5m80B5m80C5m80B5m80C5m80B5m80C5u00B6hc0C4r40B6hc0C4r40B6hc0C4r40B6p40
    C4jc0B6p40C4jc0B6p40C4r40B6hc0C4r40B6hc0C4r40B6p40C4jc0B6p40C4jc0B6p40C4jc0B6p40C4r40B6hc0C4r40
    B6hc0C4r40B6p40C4jc0B14eecCnrlo
    @Europe/Simferopol 8184,8160,7200,10800,3600,14400 -
    Bp1tg7.10Cdvr40.oD1x60gC3k46cEbauoC4jc0E5u00C5m80Daz0Fbkq6cD5nacF5m9oD5nacF5m9oD5nacF5ndoD5mbc
    F5m80D5m80F5m80D5m80F5m80D5m80F5m80D5m80F5m80D5m80C8n40DjntoC5m80D5m80C5m80D5m80F12r0D4jfcF5m80
    D5m80F5twoD6hh0Cb8hoD4r40C6hc0D4r40C6p40D4jc0C6p40D4jc0C6p40D4r40C6hc0D4r40C6hc0D4r40C6p40D4jc0
    C6p40D4jc0C6p40D4jc0C6p40D4r40C6hc0D4r40C6hc0D4r40C6p40D4jc0C6p40D4jc0C6p40D4r40C6hc0F4r2cD6h8o
    @Europe/Sofia 5596,7016,7200,3600,10800 E3.5.0/180,C10.5.0/240
    Bp1the.18C4o47c.kDf07ww.1kC4jc0D5u00C5m80D5m80C5m9oEan8foC5ndoE5sucC5floE5sucC5ejcE5twoC5el0
    E5m80C5m80E5m80C5u00E5m80C5m80E5m80C5m80E5m80C5m80E5m80C5m80E5m80C5m80E5m80C5u00E5m4oC5m6cE5m9o
    C5m6cE5m9oC5m6cE5m9oC5m6cE5m9oC5m6cE5u1oC6hacE4rao
    @Europe/Tallinn 5940,3600,7200,10800,14400 D3.5.0/180,C10.5.0/240
    B10z519C298fB4r40A8vwoCkoexD616vfCchycBcr2oC4jc0B5u00C5m80D5az0Ebfq6cD5nacE5m9oD5nacE5m9oD5nac
    E5ndoD5mbcE5m80D5m80E5m80D5m80E5m80D5m80E5m80D5m80Cb8hoD5m80C5u00D5m80C5m80D5m80C5m80D5m80C5m80
    D5m80C5m80D5m80C5m80D5u00C6hc0D4r40C6hc0D4r40C6hdoD4r40C6p40Dr800
    @Europe/Tirane 4760,3600,7200 C3.5.0/120,B10.5.0/180
    Bzp39s.14C8a8oj.kBqtncC4jc0Bdc0C9q7ooB4nqcC6ihoB4r2cC6kpoB4r2cC6p5oB4jacC6o1oB4kecC6o1oB4kec
    C6o1oB4r2cC6apoB4r2cC6p5oB4r2cC62xoB54ecC5ndoB5mbcC5m80B5m80C5m80B5m80C5m80B5m80C5m80B5m80C5m80
    B5m80C5m80B5u00C5m80B5m80C5m80B5m80C5m80B5m80C5m80B5m80C5m80B5m80C5u00
    @Europe/Ulyanovsk 11616,10800,14400,18000,7200 -
    B11f1c0C3fp70DfwfqcC5nacD5m9oC5nacD5m9oC5nacD5ndoC5mbcD5m80C5m80D5m80C5m80D5m80C5m80D5m80C5m80
    Bb8hoC5m80B5u00Eb8hoB3gg0C25qcB5m80C5m80B5m80C5m80B5m80C5m80B5m80C5u00B6hc0C4r40B6hc0C4r40B6hc0
    C4r40B6p40C4jc0B6p40C4jc0B6p40C4r40B6hc0C4r40B6hc0C4r40B6p40C4jc0B6p40C4jc0B6p40C4jc0B6p40C4r40
    B6hc0C4r40B6hc0C4r40B6p40C4jc0B14eecCfzlo
    @Europe/Vienna 3921,3600,7200 C3.5.0/120,B10.5.0/180
    Bt7666.13C786mh.lB4q1oC62zcB4r40C6hc0B4r40Chi00B4yw0C64dc0Bt600C4jc0B5u00C5m80B5m80C5m80Bb40
    Cbbs0B5fk0C5l40B5m80C61s0B56o0C9v6koB5eecC5md0B5m80C5m80B5m80C5m80B5m80C5m80B5u00C5m80B5m80C5m80
    B5m80C5m80B5m80C5m80B5m80C5m80B5m80C5m80B5u00C5m80B5m80C5m80B5m80C5m80B5m80C5m80B5m80C5m80B5m80 C5u00
    @Europe/Vilnius 6076,5040,5736,3600,7200,10800,14400 F3.5.0/180,E10.5.0/240
    Bp1th6.18Cbl3kh.gDv8fo.oE8ioz.10D2qucF67e9oEa10oDfbaoE4jc0D5u00E5m80F3p70GbhbycF5nacG5m9oF5nac
    G5m9oF5nacG5ndoF5mbcG5m80F5m80G5m80F5m80G5m80F5m80G5m80F5m80Eb8hoF5m80E5u00F5m80E5m80F5m80E5m80
    F5m80E5m80F5m80E5m80F5m80E5m80F5u00E6hc0F4r40E6hc0Db8hoE4r40F195k0
    @Europe/Volgograd 10660,10800,14400,18000 -
    B11krv2.kC39ynx.14DfwfqcC5nacD5m9oC5nacD5m9oC5nacD5ndoC5mbcD5m80C5m80D5m80C5m80D5m80C5m80Bb8ho
    C5m80B5m80C5m80B5u00C5m80Bguo0C5m80B5m80C5m80B5m80C5m80B5m80C5u00B6hc0C4r40B6hc0C4r40B6hc0C4r40
    B6p40C4jc0B6p40C4jc0B6p40C4r40B6hc0C4r40B6hc0C4r40B6p40C4jc0B6p40C4jc0B6p40C4jc0B6p40C4r40B6hc0
    C4r40B6hc0C4r40B6p40C4jc0B14eecC195loBoeuc
    @Europe/Warsaw 5040,3600,7200,10800 C3.5.0/120,B10.5.0/180
    B1070toC8bz0B4q1oC62zcB4r40C6hc0Db9icC4r40BuisoC5nm50Bqls0C4jc0B5u00C5m80B5oecC6dycB5qmcC529o
    B5fncC6g80B4r40C61s0B56o0C5u00B5eg0C2ef2cB3o80C5m80B5m80C7k80B3w00C5m80B5m80C7cg0B3w00C7cg0B3w00
    C7cg0B3w00C7k80B3o80C3x2w0B5eg0C5u00B5m80C5m80B5m80C5u00B5eg0C5m80B5m80C5m80B5m80C5m80B5m80C5m80
    B5u00C5m80B5m80C5m80B5m80C5m80B5m80C5m9oB5m80C5m80B5m80C5m80B5u00C5m80B5m80C5m80B5m80C5m80B5m80
    C5m80B5m80C5m80B5m80C5u00
    @Europe/Zurich 2048,1786,3600,7200 D3.5.0/120,C10.5.0/180
    Bgrin1.1gCcssw4.mDeozct.1aC4r40D6hc0C4r40Dc1spoC5m80D5m80C5m80D5m80C5m80D5m80C5u00D5m80C5m80
    D5m80C5m80D5m80C5m80D5m80C5m80D5m80C5m80D5m80C5u00D5m80C5m80D5m80C5m80D5m80C5m80D5m80C5m80D5m80 C5m80D5u00"

/-- Zones of the Indian Ocean. -/
def indian : String :=
  "@Indian/Chagos 17380,18000,21600 - Bxi5zy.kCrvavp.14
    @Indian/Maldives 17640,18000 - B1e3mvu
    @Indian/Mauritius 13800,14400,18000 - Bxi61mCnq73qB4zycC80m50B4r2c"

/-- Zones of the Pacific. -/
def pacific : String :=
  "@Pacific/Apia 45184,-41216,-41400,-39600,-36000,50400,46800 -
    Bsytn2.1kC5sgg0Dc7ns3.4Ej0nr6D5t10E5eg0F2zlcG2ueoF5m80G5u00F5eg0G5u00F5eg0G5u00F5eg0G5u00F5eg0
    G5u00F5eg0G5u00F5m80G5u00F5eg0G5u00F5eg0G5u00
    @Pacific/Auckland 41944,41400,45000,43200,46800 E9.5.0/120,D4.1.0/180
    Bljz0k.1kCih6rl.4B3o6cD6wxoB4r36D6hcuB4r36D6hcuB4r36D6hcuB4yv6D69kuB4yv6D69kuB69j6D4r4uB6hb6
    D4r4uB6hb6D4r4uB6hb6D4r4uB6hb6D4r4uB6p36D4jcuB6p36D4r4uEaocn6D3gg0E7k80D43s0E7cg0D3w00E7cg0D3w00
    E7cg0D3w00E7cg0D3w00E7cg0D3w00E7cg0D43s0E7cg0D3w00E7cg0D3w00E7cg0D3w00E7cg0D3w00E7cg0D3w00E7cg0
    D43s0E7cg0D3w00E6p40D4yw0E69k0D4yw0E69k0D4yw0E69k0D56o0E61s0D56o0E61s0D56o0E61s0D56o0E69k0D4yw0
    E69k0D4yw0E69k0D56o0E61s0D56o0E61s0D56o0E69k0D4yw0E69k0D4yw0E69k0D56o0E61s0D56o0E61s0D56o0E61s0 D56o0E61s0
    @Pacific/Bougainville 37336,35312,36000,32400,39600 - Bp1t2p.18C4p3sx.18Devefo.wCzehoElptlo
    @Pacific/Chatham 44028,44100,45900,49500 D9.5.0/165,C4.1.0/225
    Bljyzm.cCo5ufy.1cD913frC3gg0D7k80C43s0D7cg0C3w00D7cg0C3w00D7cg0C3w00D7cg0C3w00D7cg0C3w00D7cg0
    C43s0D7cg0C3w00D7cg0C3w00D7cg0C3w00D7cg0C3w00D7cg0C3w00D7cg0C43s0D7cg0C3w00D6p40C4yw0D69k0C4yw0
    D69k0C4yw0D69k0C56o0D61s0C56o0D61s0C56o0D61s0C56o0D69k0C4yw0D69k0C4yw0D69k0C56o0D61s0C56o0D61s0
    C56o0D69k0C4yw0D69k0C4yw0D69k0C56o0D61s0C56o0D61s0C56o0D61s0C56o0D61s0
    @Pacific/Easter -26248,-25200,-21600,-18000 D9.1.6/1320,C4.1.6/1320
    B15jj85.sCbbrui.wB4jacC7choB3vycC61toB4r2cC6hdoB4r2cC6p5oB4jacC69loB4yucC6p5oB4jacC6p5oB4r2c
    C6hdoB4r2cC6hdoB4r2cC6p5oB4jacC6p5oB4jacC6p5oB4r2cC6hdoDb8g0C4r2cD6hdoC4r2cD6p5oC4jacD6p5oC4jac
    D6p5oC5m6cD5m9oC4r2cD6hdoC4r2cD6p5oC4jacD5u1oC5eecD6p5oC4r2cD6hdoC4r2cD6hdoC4r2cD6hdoC4r2cD6p5o
    C4jacD6p5oC56mcD61toC4r2cD61toC5tycD5u1oC4r2cD6p5oC4jacD6p5oC4jacD6p5oC4jacD6p5oC4r2cD6hdoC4r2c
    D6hdoC4r2cD6p5oC4jacD6p5oC56mcD61toC4r2cD6hdoC5eecD5u1oC6hacD38poC7rycD3w1oC7cecD43toC74mcD43to
    Cj0ecD2t5oC8facD2t5oC8facD2t5oC7cecD4r5oC6hacD4r5oC6hacD4r5oC6hacD4yxo
    @Pacific/Efate 40396,39600,43200 -
    Bz2vxa.18Cjeaup.gB30w0C2yy1oB5m6cC5m9oB5m6cC5u1oB5eecC5u1oB5m6cC5m9oB5m6cC5m9oB5m6cC5m9oB5m6c
    C5m9oB5m6cC5u1oB3o6cC8fdoB2t2c
    @Pacific/Fakaofo -41096,-39600,46800 - Bvmkb0.1kCyr8fb.4
    @Pacific/Fiji 42944,43200,46800 -
    B109jg4.gCpzv77.18B3o80C7s00B3gg0C31yw0B3o80C6hc0B43s0C74o0B2t40C8fc0B2t40C8n40B2lacC8uxoB2dk0
    C8uw0B2dk0C92o0B25s0C92o0B25s0C92o0B25s0C9ag0B1y00Cal40Bv40
    @Pacific/Galapagos -21504,-18000,-21600 - B150qhy.oCh812d.10B25vdoC24mc
    @Pacific/Gambier -32388,-32400 - Bzazyz.1c
    @Pacific/Guadalcanal 38388,39600 - Bzaz28.c
    @Pacific/Guam -51660,34740,36000,32400,39600 -
    Be39rxChj9k0DctiffCtr5oE4o0xoChymcE229doCftv1E4jgzC25qcE7choC43qcE74poC43qcEpploC25qcEpddoC2pqd E7k9nC3vyc
    @Pacific/Honolulu -37886,-37800,-34200,-36000 - Bu2l9j.qCbodza.yBnr0C2qbl0B150mcDj0ho
    @Pacific/Kanton 0,-43200,-39600,46800 - B173uo0Cd6fg0D4rwuc
    @Pacific/Kiritimati -37760,-38400,-36000,50400 - Bvmk9h.kConpsa.14D4rwuw
    @Pacific/Kosrae -47284,39116,39600,32400,36000,43200 -
    Be39pw.4Chj9k0D4ayvr.1kC1cw3cE5lz0oD1bvdoC1cuxoF7kfooC95r2c
    @Pacific/Kwajalein 40160,39600,36000,32400,-43200,43200 - Bvmj9e.14Cb9u09.kD1bvdoBw4poE815woF7hbic
    @Pacific/Marquesas -33480,-34200 - Bzazzi
    @Pacific/Nauru 40060,41400,32400,43200 - B11wfhg.kC6rpbd.14By506Dagsf6
    @Pacific/Niue -40780,-40800,-39600 - B1bue2v.14C3nz40.k
    @Pacific/Norfolk 40312,40320,41400,45000,39600,43200 F10.1.0/120,E4.1.0/180
    Bvmj9c.8Cfnn3z.1gD7giquC3w00Ecplc0F195ku
    @Pacific/Noumea 39948,39600,43200 - Bz2vxi.cCkmt45.1cB2mecC8m1oB2nicC5k7x0B2t40
    @Pacific/Pago_Pago 45432,-40968,-39600 - Bsytmy.1cC5sgg0
    @Pacific/Palau -54124,32276,32400 - Be39t2.4Chj9k0
    @Pacific/Pitcairn -31220,-30600,-28800 - Bvmk6g.kCuh2fp.14
    @Pacific/Port_Moresby 35320,35312,36000 - Bp1t3n.kC4p3s0.8
    @Pacific/Rarotonga 48056,-38344,-37800,-34200,-36000 -
    Bvb2xr.4Cgjb40D85x3q.1kE3gecD7cguE3vz6D7cguE3vz6D7cguE43r6D7cguE3vz6D7cguE3vz6D7cguE3vz6D7cgu
    E3vz6D7cguE3vz6D7cguE43r6D7cguE3vz6D7cguE3vz6D7cguE3vz6
    @Pacific/Tahiti -35896,-36000 - Bzb00m.g
    @Pacific/Tarawa 41524,43200 - Bvmj8r.1k
    @Pacific/Tongatapu 44352,44400,46800,50400 - B19mbvg.1cC4slbz.cDc4z68C5280D74o0C2lacD8n5oC2lacD4mkpoC25s0"

/-- Zones of one offset, named for it. A name counts hours west of Greenwich, so its sign is turned round. -/
def fixed : String :=
  "@Etc/GMT 0 -
    @Etc/GMT+1 -3600 -
    @Etc/GMT+10 -36000 -
    @Etc/GMT+11 -39600 -
    @Etc/GMT+12 -43200 -
    @Etc/GMT+2 -7200 -
    @Etc/GMT+3 -10800 -
    @Etc/GMT+4 -14400 -
    @Etc/GMT+5 -18000 -
    @Etc/GMT+6 -21600 -
    @Etc/GMT+7 -25200 -
    @Etc/GMT+8 -28800 -
    @Etc/GMT+9 -32400 -
    @Etc/GMT-1 3600 -
    @Etc/GMT-10 36000 -
    @Etc/GMT-11 39600 -
    @Etc/GMT-12 43200 -
    @Etc/GMT-13 46800 -
    @Etc/GMT-14 50400 -
    @Etc/GMT-2 7200 -
    @Etc/GMT-3 10800 -
    @Etc/GMT-4 14400 -
    @Etc/GMT-5 18000 -
    @Etc/GMT-6 21600 -
    @Etc/GMT-7 25200 -
    @Etc/GMT-8 28800 -
    @Etc/GMT-9 32400 -
    @Etc/UTC 0 -"

/-- Other names of zones, each followed by the name that it stands for. -/
def aliases : String :=
  "Africa/Accra Africa/Abidjan Africa/Addis_Ababa Africa/Nairobi Africa/Asmara Africa/Nairobi
    Africa/Asmera Africa/Nairobi Africa/Bamako Africa/Abidjan Africa/Bangui Africa/Lagos
    Africa/Banjul Africa/Abidjan Africa/Blantyre Africa/Maputo Africa/Brazzaville Africa/Lagos
    Africa/Bujumbura Africa/Maputo Africa/Conakry Africa/Abidjan Africa/Dakar Africa/Abidjan
    Africa/Dar_es_Salaam Africa/Nairobi Africa/Djibouti Africa/Nairobi Africa/Douala Africa/Lagos
    Africa/Freetown Africa/Abidjan Africa/Gaborone Africa/Maputo Africa/Harare Africa/Maputo
    Africa/Kampala Africa/Nairobi Africa/Kigali Africa/Maputo Africa/Kinshasa Africa/Lagos
    Africa/Libreville Africa/Lagos Africa/Lome Africa/Abidjan Africa/Luanda Africa/Lagos
    Africa/Lubumbashi Africa/Maputo Africa/Lusaka Africa/Maputo Africa/Malabo Africa/Lagos
    Africa/Maseru Africa/Johannesburg Africa/Mbabane Africa/Johannesburg Africa/Mogadishu Africa/Nairobi
    Africa/Niamey Africa/Lagos Africa/Nouakchott Africa/Abidjan Africa/Ouagadougou Africa/Abidjan
    Africa/Porto-Novo Africa/Lagos Africa/Timbuktu Africa/Abidjan America/Anguilla America/Puerto_Rico
    America/Antigua America/Puerto_Rico America/Argentina/ComodRivadavia America/Argentina/Catamarca
    America/Aruba America/Puerto_Rico America/Atikokan America/Panama America/Atka America/Adak
    America/Blanc-Sablon America/Puerto_Rico America/Buenos_Aires America/Argentina/Buenos_Aires
    America/Catamarca America/Argentina/Catamarca America/Cayman America/Panama
    America/Coral_Harbour America/Panama America/Cordoba America/Argentina/Cordoba
    America/Creston America/Phoenix America/Curacao America/Puerto_Rico
    America/Dominica America/Puerto_Rico America/Ensenada America/Tijuana
    America/Fort_Wayne America/Indiana/Indianapolis America/Godthab America/Nuuk
    America/Grenada America/Puerto_Rico America/Guadeloupe America/Puerto_Rico
    America/Indianapolis America/Indiana/Indianapolis America/Jujuy America/Argentina/Jujuy
    America/Knox_IN America/Indiana/Knox America/Kralendijk America/Puerto_Rico
    America/Louisville America/Kentucky/Louisville America/Lower_Princes America/Puerto_Rico
    America/Marigot America/Puerto_Rico America/Mendoza America/Argentina/Mendoza
    America/Montreal America/Toronto America/Montserrat America/Puerto_Rico America/Nassau America/Toronto
    America/Nipigon America/Toronto America/Pangnirtung America/Iqaluit
    America/Port_of_Spain America/Puerto_Rico America/Porto_Acre America/Rio_Branco
    America/Rainy_River America/Winnipeg America/Rosario America/Argentina/Cordoba
    America/Santa_Isabel America/Tijuana America/Shiprock America/Denver
    America/St_Barthelemy America/Puerto_Rico America/St_Kitts America/Puerto_Rico
    America/St_Lucia America/Puerto_Rico America/St_Thomas America/Puerto_Rico
    America/St_Vincent America/Puerto_Rico America/Thunder_Bay America/Toronto
    America/Tortola America/Puerto_Rico America/Virgin America/Puerto_Rico
    America/Yellowknife America/Edmonton Antarctica/DumontDUrville Pacific/Port_Moresby
    Antarctica/McMurdo Pacific/Auckland Antarctica/South_Pole Pacific/Auckland Antarctica/Syowa Asia/Riyadh
    Arctic/Longyearbyen Europe/Berlin Asia/Aden Asia/Riyadh Asia/Ashkhabad Asia/Ashgabat
    Asia/Bahrain Asia/Qatar Asia/Brunei Asia/Kuching Asia/Calcutta Asia/Kolkata
    Asia/Choibalsan Asia/Ulaanbaatar Asia/Chongqing Asia/Shanghai Asia/Chungking Asia/Shanghai
    Asia/Dacca Asia/Dhaka Asia/Harbin Asia/Shanghai Asia/Istanbul Europe/Istanbul Asia/Kashgar Asia/Urumqi
    Asia/Katmandu Asia/Kathmandu Asia/Kuala_Lumpur Asia/Singapore Asia/Kuwait Asia/Riyadh
    Asia/Macao Asia/Macau Asia/Muscat Asia/Dubai Asia/Phnom_Penh Asia/Bangkok Asia/Rangoon Asia/Yangon
    Asia/Saigon Asia/Ho_Chi_Minh Asia/Tel_Aviv Asia/Jerusalem Asia/Thimbu Asia/Thimphu
    Asia/Ujung_Pandang Asia/Makassar Asia/Ulan_Bator Asia/Ulaanbaatar Asia/Vientiane Asia/Bangkok
    Atlantic/Faeroe Atlantic/Faroe Atlantic/Jan_Mayen Europe/Berlin Atlantic/Reykjavik Africa/Abidjan
    Atlantic/St_Helena Africa/Abidjan Australia/ACT Australia/Sydney Australia/Canberra Australia/Sydney
    Australia/Currie Australia/Hobart Australia/LHI Australia/Lord_Howe Australia/NSW Australia/Sydney
    Australia/North Australia/Darwin Australia/Queensland Australia/Brisbane
    Australia/South Australia/Adelaide Australia/Tasmania Australia/Hobart
    Australia/Victoria Australia/Melbourne Australia/West Australia/Perth
    Australia/Yancowinna Australia/Broken_Hill Brazil/Acre America/Rio_Branco
    Brazil/DeNoronha America/Noronha Brazil/East America/Sao_Paulo Brazil/West America/Manaus
    CET Europe/Brussels CST6CDT America/Chicago Canada/Atlantic America/Halifax
    Canada/Central America/Winnipeg Canada/Eastern America/Toronto Canada/Mountain America/Edmonton
    Canada/Newfoundland America/St_Johns Canada/Pacific America/Vancouver
    Canada/Saskatchewan America/Regina Canada/Yukon America/Whitehorse Chile/Continental America/Santiago
    Chile/EasterIsland Pacific/Easter Cuba America/Havana EET Europe/Athens EST America/Panama
    EST5EDT America/New_York Egypt Africa/Cairo Eire Europe/Dublin Etc/GMT+0 Etc/GMT Etc/GMT-0 Etc/GMT
    Etc/GMT0 Etc/GMT Etc/Greenwich Etc/GMT Etc/UCT Etc/UTC Etc/Universal Etc/UTC Etc/Zulu Etc/UTC
    Europe/Amsterdam Europe/Brussels Europe/Belfast Europe/London Europe/Bratislava Europe/Prague
    Europe/Busingen Europe/Zurich Europe/Copenhagen Europe/Berlin Europe/Guernsey Europe/London
    Europe/Isle_of_Man Europe/London Europe/Jersey Europe/London Europe/Kiev Europe/Kyiv
    Europe/Ljubljana Europe/Belgrade Europe/Luxembourg Europe/Brussels Europe/Mariehamn Europe/Helsinki
    Europe/Monaco Europe/Paris Europe/Nicosia Asia/Nicosia Europe/Oslo Europe/Berlin
    Europe/Podgorica Europe/Belgrade Europe/San_Marino Europe/Rome Europe/Sarajevo Europe/Belgrade
    Europe/Skopje Europe/Belgrade Europe/Stockholm Europe/Berlin Europe/Tiraspol Europe/Chisinau
    Europe/Uzhgorod Europe/Kyiv Europe/Vaduz Europe/Zurich Europe/Vatican Europe/Rome
    Europe/Zagreb Europe/Belgrade Europe/Zaporozhye Europe/Kyiv GB Europe/London GB-Eire Europe/London
    GMT Etc/GMT GMT+0 Etc/GMT GMT-0 Etc/GMT GMT0 Etc/GMT Greenwich Etc/GMT HST Pacific/Honolulu
    Hongkong Asia/Hong_Kong Iceland Africa/Abidjan Indian/Antananarivo Africa/Nairobi
    Indian/Christmas Asia/Bangkok Indian/Cocos Asia/Yangon Indian/Comoro Africa/Nairobi
    Indian/Kerguelen Indian/Maldives Indian/Mahe Asia/Dubai Indian/Mayotte Africa/Nairobi
    Indian/Reunion Asia/Dubai Iran Asia/Tehran Israel Asia/Jerusalem Jamaica America/Jamaica
    Japan Asia/Tokyo Kwajalein Pacific/Kwajalein Libya Africa/Tripoli MET Europe/Brussels
    MST America/Phoenix MST7MDT America/Denver Mexico/BajaNorte America/Tijuana
    Mexico/BajaSur America/Mazatlan Mexico/General America/Mexico_City NZ Pacific/Auckland
    NZ-CHAT Pacific/Chatham Navajo America/Denver PRC Asia/Shanghai PST8PDT America/Los_Angeles
    Pacific/Chuuk Pacific/Port_Moresby Pacific/Enderbury Pacific/Kanton Pacific/Funafuti Pacific/Tarawa
    Pacific/Johnston Pacific/Honolulu Pacific/Majuro Pacific/Tarawa Pacific/Midway Pacific/Pago_Pago
    Pacific/Pohnpei Pacific/Guadalcanal Pacific/Ponape Pacific/Guadalcanal Pacific/Saipan Pacific/Guam
    Pacific/Samoa Pacific/Pago_Pago Pacific/Truk Pacific/Port_Moresby Pacific/Wake Pacific/Tarawa
    Pacific/Wallis Pacific/Tarawa Pacific/Yap Pacific/Port_Moresby Poland Europe/Warsaw
    Portugal Europe/Lisbon ROC Asia/Taipei ROK Asia/Seoul Singapore Asia/Singapore Turkey Europe/Istanbul
    UCT Etc/UTC US/Alaska America/Anchorage US/Aleutian America/Adak US/Arizona America/Phoenix
    US/Central America/Chicago US/East-Indiana America/Indiana/Indianapolis US/Eastern America/New_York
    US/Hawaii Pacific/Honolulu US/Indiana-Starke America/Indiana/Knox US/Michigan America/Detroit
    US/Mountain America/Denver US/Pacific America/Los_Angeles US/Samoa Pacific/Pago_Pago UTC Etc/UTC
    Universal Etc/UTC W-SU Europe/Moscow WET Europe/Lisbon Zulu Etc/UTC"

end Stencil.Calendar.Tables
